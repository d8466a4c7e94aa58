import Chip8.Machine.Request

/-! What a history of requests says besides the machine it leaves: the programs that were loaded, the
    changes to the keypad, the faults that stopped the machine, the outcomes in order, and whether
    all that was executed was fetched from memory. A COURSE is a history of cycles, between which a
    machine is supplied: a program may be loaded over the one that runs, and keys may be pressed. -/

namespace Chip8.Machine

/-- Whether a request executes an instruction that was not fetched. -/
def Request.executes : Request → Bool
  | .execute _ => true
  | .executeWord _ => true
  | _ => false

/-- Whether a request is a cycle, a load or a change to the keypad. -/
def Request.drives : Request → Bool
  | .load _ => true
  | .loadFrom _ => true
  | .cycle => true
  | .run _ => true
  | .keys _ => true
  | _ => false

/-- The program that a request loads, if it is a load and succeeds. -/
def loads (m : Machine) : Request → Option (List UInt8)
  | .load program => if (m.load program).succeeded then some program else none
  | .loadFrom source => if (m.loadFrom source).succeeded then source.contents.toOption else none
  | _ => none

/-- The program of the last load of a history that succeeded, if one did. -/
def lastLoaded (m : Machine) : List Request → Option (List UInt8)
  | [] => none
  | r :: rest => ((m.handle r).machine.lastLoaded rest).or (m.loads r)

/-- The programs that a history loads, in order. -/
def loaded (m : Machine) : List Request → List (List UInt8)
  | [] => []
  | r :: rest => (m.loads r).toList ++ (m.handle r).machine.loaded rest

/-- The changes to the keypad that a history makes, in order. -/
def keypadEdits (history : List Request) : List Keypad.Edit :=
  history.filterMap fun
    | .keys e => some e
    | _ => none

/-- The machine with some programs written where programs begin, the last of them retained, and
some changes made to its keypad. -/
def supplied (m : Machine) (programs : List (List UInt8)) (edits : List Keypad.Edit) : Machine :=
  { m with
    memory := programs.foldl (fun memory => memory.store Memory.programStart.toNat) m.memory
    program := programs.getLast?.getD m.program
    keypad := edits.foldl Keypad.edit m.keypad }

/-- The outcomes of a history, each request put to the machine that the ones before it left. -/
def outcomes (m : Machine) : List Request → List (Outcome LoadError Reply)
  | [] => []
  | r :: rest => m.handle r :: (m.handle r).machine.outcomes rest

/-- The fault that a request leaves where there was none. -/
def latches (m : Machine) (r : Request) : Option Fault :=
  if m.fault = none then (m.handle r).machine.fault else none

/-- The faults that a history leaves where there was none, in order. -/
def latchings (m : Machine) : List Request → List Fault
  | [] => []
  | r :: rest => (m.latches r).toList ++ (m.handle r).machine.latchings rest

/-- Whether a line of a log begins with `halted: `. -/
def tellsOfHalt (line : String) : Bool := "halted: ".toList.isPrefixOf line.toList

/-- The line that tells of a halt at a fault. -/
def haltLine (f : Fault) : String := "halted: " ++ f.message

/-- The lines of a log that tell of a halt. -/
def haltLines (log : List Event) : List String := (log.map Event.text).filter tellsOfHalt

/-! ### Courses -/

/-- Whether a request is a load or a change to the keypad. -/
def Request.supplies : Request → Bool
  | .load _ => true
  | .loadFrom _ => true
  | .keys _ => true
  | _ => false

/-- The machine after some cycles, each followed by the requests that are made then. -/
def course (m : Machine) (between : Nat → List Request) : Nat → Machine
  | 0 => m
  | n + 1 => (m.course between n).cycle.machine.after (between n)

/-- The words that the cycles of a course find, in order. -/
def courseWords (m : Machine) (between : Nat → List Request) (n : Nat) : List Word :=
  (List.range n).map fun k => (m.course between k).nextWord

end Chip8.Machine
