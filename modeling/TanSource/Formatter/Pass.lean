import TanSource.Diagnostic
import TanSource.Layout
import TanSource.Binary64.Reading

/-!
# A formatting pass

The pass reads a row of tokens once and matches delimiters itself, so it lays out rows that no
reader accepts. Lists that are open stand on a stack of scopes. `fillScopes` reads up to the
delimiter that closes the bottom scope, `formatToken` one expression and `formatFrom` all that is
left. What cannot be written ends a pass where it is met.
-/

namespace TanSource

def Value.toBinary64 : Value → Except Unprintable Binary64
  | absent => .error .missing
  | text s =>
      match Binary64.ofText? s with
      | some x => .ok x
      | none => .error (.unreadable s)
  | int n =>
      match Binary64.ofInt? n with
      | some x => .ok x
      | none => .error .tooLarge
  | float x => .ok x

def Token.text (t : Token) : Except Unprintable Text :=
  match t.kind with
  | .comment => t.value.printed.written
  | .symbol => t.value.printed.written
  | .int => t.value.printed.written
  | .string => t.value.printed.written.map fun s => '"' :: (s ++ ['"'])
  | .annot => t.value.printed.written.map fun s => '#' :: s
  | .quote => .ok ['\'']
  | .float => t.value.toBinary64.map Binary64.text
  | .delimiter d => .ok [d.char]

inductive FormatEvent
  | consumed (t : Token)
  | diagnosed (d : Diagnostic)
  | finished (count : Nat)
  deriving DecidableEq

def FormatEvent.record : FormatEvent → Record
  | consumed t => ⟨.debug, "Consumed token " ++ t.fields.string⟩
  | diagnosed d => ⟨if d.recoverable then .warning else .error, d.message.string⟩
  | finished count =>
      ⟨.info, "Formatting finished with " ++ toString count ++ " recoverable diagnostic(s)"⟩

/-- The state of a pass between two tokens. -/
structure Pass where
  /-- The number of open scopes. -/
  nesting : Int := 0
  /-- Diagnostics nobody has taken yet, in the order of their recording. -/
  pending : List Diagnostic := []
  /-- What happened, the latest event first. -/
  journal : List FormatEvent := []
  deriving DecidableEq

namespace Pass

def note (pass : Pass) (event : FormatEvent) : Pass :=
  { pass with journal := event :: pass.journal }

/-- Takes note of a token that was read. It is told to the log field by field whether or not the log
is read, so a value that cannot be written ends the pass here. -/
def consume (pass : Pass) (t : Token) : Except Unprintable Pass :=
  t.fields.written.map fun _ => pass.note (.consumed t)

def report (pass : Pass) (d : Diagnostic) : Pass :=
  { pass with pending := pass.pending ++ [d], journal := .diagnosed d :: pass.journal }

def enter (pass : Pass) : Pass :=
  { pass with nesting := pass.nesting + 1 }

def leave (pass : Pass) : Pass :=
  { pass with nesting := pass.nesting - 1 }

def events (pass : Pass) : List FormatEvent :=
  pass.journal.reverse

end Pass

/-- A list that is open: its family, the token that opened it, and the lines of its body, the latest
line first. -/
structure Scope where
  family : Bracket
  opener? : Option Token
  lines : List Text := []
  deriving DecidableEq

namespace Scope

def body (scope : Scope) : Text :=
  scope.lines.reverse.flatten

def push (scope : Scope) (line : Text) : Scope :=
  { scope with lines := line :: scope.lines }

end Scope

inductive Halt
  | aborted
  | unprintable (reason : Unprintable)
  | notClosing
  deriving DecidableEq

/-- How formatting ended: with a text or a halt, in which state, and in front of which tokens. -/
structure Outcome where
  result : Except Halt Text
  pass : Pass
  rest : List Token

/-- Where a pass is after one more token inside a list. -/
inductive Turn
  | inside (scope : Scope) (below : List Scope) (pass : Pass)
  | closed (body : Text) (pass : Pass)
  | halted (reason : Halt) (pass : Pass)

/-- Goes on inside a list that was given one more child, unless the child cannot be written. -/
def Turn.ofChild (scope : Except Unprintable Scope) (below : List Scope) (pass : Pass) : Turn :=
  match scope with
  | .ok scope => .inside scope below pass
  | .error reason => .halted (.unprintable reason) pass

namespace FormatSettings

variable (settings : FormatSettings)

def openScope (pass : Pass) (family : Bracket) (opener? : Option Token) :
    Except Halt Scope × Pass :=
  match settings.limitAt? pass.nesting with
  | none => (.ok ⟨family, opener?, []⟩, pass.enter)
  | some limit =>
      let tooDeep : Diagnostic := .nestingTooDeep limit opener?
      match tooDeep.message.written with
      | .ok _ => (.error .aborted, pass.report tooDeep)
      | .error reason => (.error (.unprintable reason), pass)

def addChild (pass : Pass) (scope : Scope) (content : Text) : Except Unprintable Scope :=
  (settings.line pass.nesting content).map scope.push

/-- One token inside the list `scope`, which stands inside the lists `below`. -/
def turn (scope : Scope) (below : List Scope) (pass : Pass) (t : Token) : Turn :=
  match t.kind with
  | .closing family =>
      if family = scope.family then
        let pass := pass.leave
        match below with
        | [] => .closed scope.body pass
        | outer :: below =>
            let child := settings.wrap pass.nesting scope.family scope.body
            .ofChild (child.bind (settings.addChild pass outer)) below pass
      else
        let pass := pass.report (.unexpectedToken t)
        .ofChild (settings.addChild pass scope []) below pass
  | .opening family =>
      match settings.openScope pass family (some t) with
      | (.ok inner, pass) => .inside inner (scope :: below) pass
      | (.error reason, pass) => .halted reason pass
  | _ => .ofChild (t.text.bind (settings.addChild pass scope)) below pass

/-- Reads tokens up to the one that closes the outermost of the open lists and gives its body. -/
def fillScopes (scope : Scope) (below : List Scope) (pass : Pass) : List Token → Outcome
  | [] =>
      ⟨.error .aborted, pass.report (.unterminatedList (.closing scope.family) scope.opener?), []⟩
  | t :: ts =>
      match pass.consume t with
      | .error reason => ⟨.error (.unprintable reason), pass, ts⟩
      | .ok pass =>
          match settings.turn scope below pass t with
          | .inside scope below pass => fillScopes scope below pass ts
          | .closed body pass => ⟨.ok body, pass, ts⟩
          | .halted reason pass => ⟨.error reason, pass, ts⟩

def formatBody (pass : Pass) (family : Bracket) (opener? : Option Token) (ts : List Token) :
    Outcome :=
  match settings.openScope pass family opener? with
  | (.ok scope, pass) => settings.fillScopes scope [] pass ts
  | (.error reason, pass) => ⟨.error reason, pass, ts⟩

def wrapped (family : Bracket) (outcome : Outcome) : Outcome :=
  { outcome with
    result := outcome.result.bind fun body =>
      (settings.wrap outcome.pass.nesting family body).mapError .unprintable }

def formatToken (pass : Pass) (t : Token) (ts : List Token) : Outcome :=
  match t.kind with
  | .opening family => settings.wrapped family (settings.formatBody pass family (some t) ts)
  | .closing _ => ⟨.ok [], pass.report (.unexpectedToken t), ts⟩
  | _ => ⟨t.text.mapError .unprintable, pass, ts⟩

theorem length_fillScopes_rest (scope : Scope) (below : List Scope) (pass : Pass)
    (ts : List Token) : (settings.fillScopes scope below pass ts).rest.length ≤ ts.length := by
  induction ts generalizing scope below pass with
  | nil => simp [fillScopes]
  | cons t ts ih =>
      unfold fillScopes
      split
      · simp
      · split
        · exact Nat.le_succ_of_le (ih ..)
        · simp
        · simp

theorem length_formatBody_rest (pass : Pass) (family : Bracket) (opener? : Option Token)
    (ts : List Token) : (settings.formatBody pass family opener? ts).rest.length ≤ ts.length := by
  unfold formatBody
  split
  · exact settings.length_fillScopes_rest ..
  · simp

theorem length_formatToken_rest (pass : Pass) (t : Token) (ts : List Token) :
    (settings.formatToken pass t ts).rest.length ≤ ts.length := by
  unfold formatToken
  split
  · exact settings.length_formatBody_rest ..
  · simp
  · simp

/-- All expressions that are left, one behind the other. -/
def formatFrom (pass : Pass) : List Token → Outcome
  | [] => ⟨.ok [], pass, []⟩
  | t :: ts =>
      match pass.consume t with
      | .error reason => ⟨.error (.unprintable reason), pass, ts⟩
      | .ok pass =>
          let first := settings.formatToken pass t ts
          match first.result with
          | .error reason => ⟨.error reason, first.pass, first.rest⟩
          | .ok fragment =>
              let others := formatFrom first.pass first.rest
              { others with result := others.result.map (fragment ++ ·) }
termination_by ts => ts.length
decreasing_by exact Nat.lt_succ_of_le (settings.length_formatToken_rest _ t ts)

end FormatSettings

end TanSource
