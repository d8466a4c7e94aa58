import Mathlib.Tactic
import Chip8.Machine.History
import Chip8.Proofs.Cycle
import Chip8.Proofs.Loading

/-! A reset makes a machine NEW, whatever happened to it.

    A reset can fail only if the program it loads again does not fit, and would then have cleared
    the memory already. So the law rests on what a history keeps: the retained program is the one
    loaded last (`program_after`), and a program that was loaded fits (`length_lastLoaded`). -/

namespace Chip8.Machine

variable {m : Machine} {program : List UInt8}

/-! ### The retained program -/

theorem program_execute (m : Machine) (i : Instruction) :
    (m.execute i).machine.program = m.program := by
  rcases execute_cases m i with ⟨f, he⟩ | ⟨-, he⟩ <;> rw [he]
  · rfl
  · exact (kept_effect m i).1

theorem program_fetch (m : Machine) : m.fetch.machine.program = m.program := by
  rcases fetch_cases m with ⟨f, hf⟩ | ⟨w, -, hf⟩ <;> rw [hf] <;> rfl

theorem program_cycle (m : Machine) : m.cycle.machine.program = m.program := by
  rcases machine_cycle_cases m with ⟨f, hc⟩ | ⟨-, i, -, -, hc⟩ <;> rw [hc]
  exact (kept_effect m.fetched i).1

theorem program_run (m : Machine) (n : Nat) : (m.run n).machine.program = m.program :=
  run_induction (P := fun m' => m'.program = m.program)
    (fun m' h => (program_cycle m').trans h) n rfl

theorem program_reset (m : Machine) : m.reset.machine.program = m.program := by
  rw [reset_eq]
  split <;> simp [fail]

/-- A request keeps the program, but for a load that succeeds. -/
theorem program_handle (m : Machine) (r : Request) :
    (m.handle r).machine.program = (m.loads r).getD m.program := by
  cases r with
  | load program =>
    rcases load_cases m program with ⟨f, hl⟩ | ⟨-, hl⟩ <;>
      simp [handle, reply, loads, hl, fail, Outcome.succeeded]
  | loadFrom source =>
    rcases loadFrom_cases m source with ⟨e, hl⟩ | ⟨program, hc, hlen, hl⟩
    · simp [handle, loads, hl, fail, Outcome.succeeded]
    · simp [handle, loads, hl, load_of_le hlen, hc, Outcome.succeeded, Except.toOption]
  | reset => exact program_reset m
  | fetch => exact program_fetch m
  | execute i => exact program_execute m i
  | executeWord w =>
    cases hd : Instruction.decode w with
    | none => simp [handle, executeWord, hd, succeed, loads]
    | some i => simpa [handle, executeWord, hd, reply, loads] using program_execute m i
  | cycle => exact program_cycle m
  | run n => exact program_run m n
  | keys e => rfl

/-- The retained program is the one loaded last. -/
theorem program_after (m : Machine) (history : List Request) :
    (m.after history).program = (m.lastLoaded history).getD m.program := by
  induction history generalizing m with
  | nil => rfl
  | cons r rest ih =>
    show ((m.handle r).machine.after rest).program = _
    rw [ih, program_handle, lastLoaded]
    cases (m.handle r).machine.lastLoaded rest <;> simp

/-! ### Its length -/

theorem length_of_loads {r : Request} (h : m.loads r = some program) : program.length ≤ 3584 := by
  cases r with
  | load p =>
    rcases load_cases m p with ⟨f, hl⟩ | ⟨hlen, hl⟩
    · simp [loads, hl, fail, Outcome.succeeded] at h
    · obtain rfl : p = program := by simpa [loads, hl, Outcome.succeeded] using h
      exact hlen
  | loadFrom source =>
    rcases loadFrom_cases m source with ⟨e, hl⟩ | ⟨p, hc, hlen, hl⟩
    · simp [loads, hl, fail, Outcome.succeeded] at h
    · obtain rfl : p = program := by
        simpa [loads, hl, hc, Outcome.succeeded, Except.toOption] using h
      exact hlen
  | _ => cases h

theorem length_lastLoaded {history : List Request} (h : m.lastLoaded history = some program) :
    program.length ≤ 3584 := by
  induction history generalizing m with
  | nil => cases h
  | cons r rest ih =>
    rw [lastLoaded, Option.or_eq_some_iff] at h
    rcases h with h | ⟨-, h⟩
    · exact ih h
    · exact length_of_loads h

/-- A program that was retained fits. -/
theorem length_program_after (random : Random) (history : List Request) :
    ((powerOn random).after history).program.length ≤ 3584 := by
  rw [program_after]
  cases h : (powerOn random).lastLoaded history with
  | none => exact Nat.zero_le _
  | some program => exact length_lastLoaded h

/-! ### The reset -/

/-- NEW: after any history a reset succeeds and leaves what loading the last program into a new
machine leaves, one with the random source where it stands; so the two answer alike from then
on. -/
theorem reset_after (random : Random) (history : List Request) :
    let m := (powerOn random).after history
    let new := (powerOn m.random).load (((powerOn random).lastLoaded history).getD [])
    m.reset.result = .ok () ∧ new.result = .ok () ∧ m.reset.machine = new.machine ∧
      ∀ later, m.reset.machine.outcomes later = new.machine.outcomes later := by
  intro m new
  have hprogram : ((powerOn random).lastLoaded history).getD [] = m.program :=
    (program_after (powerOn random) history).symm
  have hlength : m.program.length ≤ 3584 := length_program_after random history
  have hnew : new = (powerOn m.random).load m.program := by rw [← hprogram]
  rw [reset_of_le hlength, hnew]
  exact ⟨rfl, by rw [load_of_le hlength], rfl, fun _ => rfl⟩

end Chip8.Machine
