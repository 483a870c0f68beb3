import TanSource.Text

/-!
# Settings over defaults

The settings of a component are given by key. Those that are not given keep their defaults
(`overlay`), and keys that the component does not know are of no effect (`overlay_cons_of_unknown`).
What a component finds under a key is a value of any sort, which it takes as a number, a switch or a
name.
-/

namespace TanSource

/-- The defaults with the given values in place of those of the same key. -/
def overlay {α : Type} (given defaults : List (String × α)) : List (String × α) :=
  defaults.map fun (key, value) => (key, (given.lookup key).getD value)

/-- What is given under a key that a component does not know is of no effect. -/
theorem overlay_cons_of_unknown {α : Type} {defaults : List (String × α)} {key : String}
    (h : defaults.lookup key = none) (value : α) (given : List (String × α)) :
    overlay ((key, value) :: given) defaults = overlay given defaults := by
  refine List.map_congr_left fun entry hentry => ?_
  have hne : (entry.1 == key) = false := by
    refine Bool.eq_false_iff.mpr fun heq => ?_
    have hunknown := List.lookup_eq_none_iff.mp h entry hentry
    simp_all
  dsimp only
  rw [List.lookup_cons, hne]

inductive SettingValue
  | absent
  | switch (on : Bool)
  | number (n : Int)
  | name (s : String)
  deriving DecidableEq

namespace SettingValue

def isOn : SettingValue → Bool
  | absent => false
  | switch on => on
  | number n => n ≠ 0
  | name s => s ≠ ""

def number? : SettingValue → Option Int
  | number n => some n
  | switch on => some (if on then 1 else 0)
  | _ => none

def limit? : SettingValue → Option (Option Int)
  | absent => some none
  | v => v.number?.map some

/-- The name that the value is taken for, which is its text. -/
def text : SettingValue → String
  | absent => "None"
  | switch on => if on then "True" else "False"
  | number n => decimalString n
  | name s => s

end SettingValue

abbrev SettingValues := List (String × SettingValue)

namespace SettingValues

def value (settings : SettingValues) (key : String) : SettingValue :=
  (settings.lookup key).getD .absent

def isOn (settings : SettingValues) (key : String) : Bool :=
  (settings.value key).isOn

def number? (settings : SettingValues) (key : String) : Option Int :=
  (settings.value key).number?

end SettingValues

end TanSource
