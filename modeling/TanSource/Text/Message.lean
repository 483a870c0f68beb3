import TanSource.Text.Unprintable

/-!
# Messages

A message is put together from texts and from integers that a caller has given. It is written as a
whole or, if one of these integers has too many digits, not at all. Counts of the program itself,
the lines and columns of a text among them, are of what is held in memory and have few digits: they
are texts like any other.
-/

namespace TanSource

inductive MessagePart
  | text (s : Text)
  | number (n : Int)
  deriving DecidableEq

namespace MessagePart

def chars : MessagePart → Text
  | text s => s
  | number n => decimalText n

def IsWritable : MessagePart → Prop
  | text _ => True
  | number n => FewDigits n

instance : DecidablePred IsWritable
  | text _ => inferInstanceAs (Decidable True)
  | number n => inferInstanceAs (Decidable (FewDigits n))

end MessagePart

abbrev Message := List MessagePart

namespace Message

def ofString (s : String) : Message :=
  [.text s.toList]

/-- The characters of the message, whether it can be written or not. -/
def text (message : Message) : Text :=
  message.flatMap MessagePart.chars

def string (message : Message) : String :=
  String.ofList message.text

def IsWritable (message : Message) : Prop :=
  ∀ part ∈ message, part.IsWritable

instance (message : Message) : Decidable message.IsWritable :=
  inferInstanceAs (Decidable (∀ part ∈ message, part.IsWritable))

def written (message : Message) : Except Unprintable Text :=
  if message.IsWritable then .ok message.text else .error .tooManyDigits

theorem written_of_isWritable {message : Message} (h : message.IsWritable) :
    message.written = .ok message.text :=
  if_pos h

theorem written_of_not_isWritable {message : Message} (h : ¬message.IsWritable) :
    message.written = .error .tooManyDigits :=
  if_neg h

theorem isWritable_append {first second : Message} :
    IsWritable (first ++ second) ↔ first.IsWritable ∧ second.IsWritable :=
  List.forall_mem_append

theorem isWritable_ofString (s : String) : (ofString s).IsWritable := by
  simp [ofString, IsWritable, MessagePart.IsWritable]

@[simp] theorem isWritable_text (s : Text) : IsWritable [.text s] := by
  simp [IsWritable, MessagePart.IsWritable]

@[simp] theorem isWritable_number {n : Int} : IsWritable [.number n] ↔ FewDigits n := by
  simp [IsWritable, MessagePart.IsWritable]

@[simp] theorem written_text (s : Text) : written [.text s] = .ok s := by
  rw [written_of_isWritable (isWritable_text s)]
  simp [text, MessagePart.chars]

@[simp] theorem written_number (n : Int) : written [.number n] = intText n := by
  simp [written, intText, text, MessagePart.chars]

end Message

end TanSource
