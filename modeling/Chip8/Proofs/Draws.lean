import Mathlib.Tactic
import Chip8.Machine.Draws
import Chip8.Proofs.Alike
import Chip8.Proofs.Effects
import Chip8.Proofs.Loading

/-! Random bytes are DRAWN in order, and by nothing but the instructions that draw them.

    The source of a machine is a key and a position, and the byte at a position is a function of the
    two. `Drawn` says what some executions make of it: the `j`-th of them reads the `j`-th byte
    from where the source stood, and afterwards the source stands behind the last of them. An
    instruction does so (`drawn_effect`), and what is done after one another adds up
    (`drawn_append`), so every request and every history does.

    What draws nothing does not look at the source either: two machines that differ only in their
    sources answer alike for as long as nothing is drawn (`handle_reseeded`). -/

namespace Chip8.Machine

variable {m : Machine} {i : Instruction} {r : Request} {random random' random'' : Random}
variable {es es' : List Execution}

/-! ### The order of the bytes -/

/-- Some executions read the bytes from where a source stands, one each, and leave it behind
them. -/
structure Drawn (random : Random) (es : List Execution) (random' : Random) : Prop where
  position : random' = ⟨random.key, random.drawn + es.length⟩
  value : ∀ j e, es[j]? = some e → ∃ x mask, e.instruction = .random x mask ∧
    e.machine.reg x = Random.byteAt random.key (random.drawn + j) &&& mask

theorem drawn_nil (random : Random) : Drawn random [] random where
  position := rfl
  value j e h := by simp at h

theorem drawn_append (h : Drawn random es random') (h' : Drawn random' es' random'') :
    Drawn random (es ++ es') random'' where
  position := by
    rw [h'.position, h.position, List.length_append, Nat.add_assoc]
  value j e he := by
    rcases Nat.lt_or_ge j es.length with hj | hj
    · rw [List.getElem?_append_left hj] at he
      exact h.value j e he
    · rw [List.getElem?_append_right hj] at he
      obtain ⟨x, mask, hi, hv⟩ := h'.value _ e he
      have hkey : random'.key = random.key := by rw [h.position]
      have hdrawn : random'.drawn = random.drawn + es.length := by rw [h.position]
      exact ⟨x, mask, hi, by rw [hv, hkey, hdrawn, Nat.add_assoc, Nat.add_sub_cancel' hj]⟩

/-- The executions of one instruction, of which there is one if it succeeded. -/
theorem draws_executed (i : Instruction) (o : Outcome Fault Unit) :
    (executed i o).filter (·.instruction.draws) =
      if o.succeeded && i.draws then [⟨i, o.machine⟩] else [] := by
  rw [executed]
  cases o.succeeded <;> cases hd : i.draws <;> simp [hd]

/-- An instruction that has its effect draws one byte, or leaves the source alone. -/
theorem drawn_effect (m : Machine) (i : Instruction) {m' : Machine}
    (hregisters : m'.registers = (m.effect i).registers)
    (hrandom : m'.random = (m.effect i).random) :
    Drawn m.random (if i.draws then [⟨i, m'⟩] else []) m'.random := by
  have hafter : m'.random = m.randomAfter i := hrandom.trans (congrArg random (effect_eq m i))
  rw [hafter]
  cases i
  case random x mask =>
    refine ⟨rfl, fun j e he => ?_⟩
    obtain ⟨rfl, rfl⟩ : j = 0 ∧ ⟨.random x mask, m'⟩ = e := by
      cases j <;> simp_all [Instruction.draws]
    refine ⟨x, mask, rfl, ?_⟩
    have hreg : m'.reg x = (m.effect (.random x mask)).reg x :=
      congrArg (Bank.entry · x) hregisters
    rw [hreg]
    exact (reg_setReg _ x x _).trans (if_pos rfl)
  all_goals exact drawn_nil m.random

theorem drawn_execute (m : Machine) (i : Instruction) :
    Drawn m.random ((executed i (m.execute i)).filter (·.instruction.draws))
      (m.execute i).machine.random := by
  rw [draws_executed]
  rcases execute_cases m i with ⟨f, he⟩ | ⟨-, he⟩ <;> rw [he]
  · exact drawn_nil m.random
  · exact drawn_effect m i rfl rfl

theorem result_cases (o : Outcome Fault Unit) :
    o.result = .ok () ∧ o.succeeded = true ∨ ∃ f, o.result = .error f ∧ o.succeeded = false := by
  cases hr : o.result with
  | ok a => exact .inl ⟨rfl, by rw [Outcome.succeeded, hr]⟩
  | error f => exact .inr ⟨f, rfl, by rw [Outcome.succeeded, hr]⟩

/-- A cycle that fails, be it on a machine that has stopped, executes nothing. -/
theorem executedByCycle_of_failure (h : m.cycle.succeeded = false) : m.executedByCycle = [] := by
  rw [executedByCycle]
  split
  · rfl
  · rw [executed, h]
    rfl

theorem drawn_cycle (m : Machine) :
    Drawn m.random (m.executedByCycle.filter (·.instruction.draws)) m.cycle.machine.random := by
  rcases result_cases m.cycle with ⟨hr, hok⟩ | ⟨f, hr, hno⟩
  · obtain ⟨-, i, hd, -, hc⟩ := cycle_of_success hr
    rw [executedByCycle, hd, draws_executed, hok, Bool.true_and]
    exact drawn_effect m.fetched i (by rw [hc]; rfl) (by rw [hc]; rfl)
  · rw [executedByCycle_of_failure hno, cycle_of_failure hr]
    exact drawn_nil m.random

theorem drawn_run (m : Machine) (n : Nat) :
    Drawn m.random ((m.executedByRun n).filter (·.instruction.draws)) (m.run n).machine.random := by
  induction n generalizing m with
  | zero => exact drawn_nil m.random
  | succ n ih =>
    have hfirst := drawn_cycle m
    rw [executedByRun, run, List.filter_append]
    rcases result_cases m.cycle with ⟨hr, hok⟩ | ⟨f, hr, hno⟩
    · rw [hok, if_pos rfl, Outcome.andThen_of_ok hr]
      exact drawn_append hfirst (ih m.cycle.machine)
    · rw [hno, if_neg (by simp), Outcome.andThen_of_error hr]
      exact drawn_append hfirst (drawn_nil _)

theorem drawn_reset (m : Machine) : m.reset.machine.random = m.random := by
  rw [reset_eq]
  split <;> simp [fail, powerOn]

/-- Every request draws the bytes of what it executes, and those only. -/
theorem drawn_handle (m : Machine) (r : Request) :
    Drawn m.random (m.drawsBy r) (m.handle r).machine.random := by
  have idle (m' : Machine) (h : m'.random = m.random) : Drawn m.random [] m'.random := by
    rw [h]
    exact drawn_nil m.random
  cases r with
  | load program => exact idle (m.load program).machine (by rw [load_eq_supplied]; rfl)
  | loadFrom source => exact idle (m.loadFrom source).machine (by rw [loadFrom_eq_supplied]; rfl)
  | reset => exact idle m.reset.machine (drawn_reset m)
  | fetch =>
    refine idle m.fetch.machine ?_
    rcases fetch_cases m with ⟨f, hf⟩ | ⟨w, -, hf⟩ <;> rw [hf] <;> rfl
  | execute i => exact drawn_execute m i
  | executeWord w =>
    rw [drawsBy, executions, handle, executeWord]
    cases Instruction.decode w with
    | none => exact drawn_nil m.random
    | some i => exact drawn_execute m i
  | cycle => exact drawn_cycle m
  | run n => exact drawn_run m n
  | keys e => exact drawn_nil m.random

/-- A request that draws nothing leaves the source where it stands. -/
theorem random_of_drawsBy (h : m.drawsBy r = []) : (m.handle r).machine.random = m.random := by
  have hd := drawn_handle m r
  rw [h] at hd
  exact hd.position

theorem drawn_after (m : Machine) (history : List Request) :
    Drawn m.random (m.draws history) (m.after history).random := by
  induction history generalizing m with
  | nil => exact drawn_nil m.random
  | cons r rest ih => exact drawn_append (drawn_handle m r) (ih (m.handle r).machine)

/-! ### Machines with other sources -/

/-- The machine with another source of random bytes. -/
def reseeded (random : Random) (m : Machine) : Machine := { m with random }

theorem aside_reseeded (random : Random) : Aside (reseeded random) where
  memory _ := rfl
  pc _ := rfl
  fault _ := rfl
  obstacle _ i := by cases i <;> rfl
  fetched _ := rfl
  tick _ := rfl
  stopped _ _ := rfl

/-- What draws nothing has the same effect whatever the source is. -/
theorem effect_reseeded (m : Machine) (random : Random) (h : i.draws = false) :
    (m.reseeded random).effect i = (m.effect i).reseeded random := by
  rw [reseeded]
  cases i <;> simp only [effect, execute, succeed, skipIf_eq]
  case random => cases h
  case waitKey => cases m.keypad.firstDown <;> rfl
  all_goals rfl

theorem obstacle_of_draws (m : Machine) (h : i.draws = true) : m.obstacle i = none := by
  cases i <;> simp_all [Instruction.draws, obstacle]

/-- An instruction that would succeed if it drew, and was not executed as a draw, does not draw. -/
theorem draws_of_executed {o : Outcome Fault Unit} (hok : i.draws = true → o.succeeded = true)
    (h : (executed i o).filter (·.instruction.draws) = []) : i.draws = false := by
  cases hd : i.draws with
  | false => rfl
  | true =>
    rw [draws_executed, hok hd, hd] at h
    cases h

theorem execute_reseeded (random : Random)
    (h : (executed i (m.execute i)).filter (·.instruction.draws) = []) :
    (m.reseeded random).execute i = (m.execute i).changed (reseeded random) := by
  refine execute_changed (aside_reseeded random) (effect_reseeded m random ?_)
  refine draws_of_executed (fun hdraws => ?_) h
  rw [execute_of_clear (obstacle_of_draws m hdraws)]
  rfl

/-- A cycle that draws nothing finds no instruction that would. -/
theorem cycle_reseeded (random : Random)
    (h : m.executedByCycle.filter (·.instruction.draws) = []) :
    (m.reseeded random).cycle = m.cycle.changed (reseeded random) := by
  refine cycle_changed (aside_reseeded random) fun w i hm hw hd => ?_
  refine effect_reseeded m.fetched random ?_
  rw [executedByCycle, nextWord_of_word hw, hd] at h
  refine draws_of_executed (fun hdraws => ?_) h
  rw [cycle_of_clear hm hw hd (obstacle_of_draws m.fetched hdraws)]
  rfl

theorem run_reseeded (random : Random) {n : Nat}
    (h : (m.executedByRun n).filter (·.instruction.draws) = []) :
    (m.reseeded random).run n = (m.run n).changed (reseeded random) := by
  induction n generalizing m with
  | zero => rfl
  | succ n ih =>
    rw [executedByRun, List.filter_append, List.append_eq_nil_iff] at h
    obtain ⟨hfirst, hrest⟩ := h
    rw [run, run, cycle_reseeded random hfirst]
    refine Outcome.andThen_changed fun _ hr => ih ?_
    rwa [Outcome.succeeded, hr, if_pos rfl] at hrest

theorem load_reseeded (m : Machine) (random : Random) (program : List UInt8) :
    (m.reseeded random).load program = (m.load program).changed (reseeded random) := by
  simp only [load, reseeded]
  cases m.memory.loadProgram program <;> rfl

theorem loadFrom_reseeded (m : Machine) (random : Random) (source : ByteSource) :
    (m.reseeded random).loadFrom source = (m.loadFrom source).changed (reseeded random) := by
  rw [loadFrom, loadFrom]
  cases source.contents with
  | error e => rfl
  | ok program =>
    simp only [load_reseeded]
    cases hr : (m.load program).result <;> simp [Outcome.changed, hr]

theorem reset_reseeded (m : Machine) (random : Random) :
    (m.reseeded random).reset = m.reset.changed (reseeded random) := by
  simp only [reset_eq, reseeded]
  cases Memory.powerOn.loadProgram m.program <;> simp [Outcome.changed, fail, powerOn, reseeded]

theorem fetch_reseeded (m : Machine) (random : Random) :
    (m.reseeded random).fetch = m.fetch.changed (reseeded random) := by
  simp only [fetch, reseeded]
  cases m.memory.word m.pc <;> rfl

/-- A request that draws nothing is answered alike whatever the source is. -/
theorem handle_reseeded (random : Random) (h : m.drawsBy r = []) :
    (m.reseeded random).handle r = (m.handle r).changed (reseeded random) := by
  cases r with
  | load program => exact congrArg (reply fun _ => .done) (load_reseeded m random program)
  | loadFrom source =>
    rw [handle, handle, loadFrom_reseeded]
    rfl
  | reset => exact congrArg (reply fun _ => .done) (reset_reseeded m random)
  | fetch => exact congrArg (reply .word) (fetch_reseeded m random)
  | execute i => exact congrArg (reply fun _ => .done) (execute_reseeded random h)
  | executeWord w =>
    rw [handle, handle, executeWord, executeWord]
    cases hd : Instruction.decode w with
    | none => rfl
    | some i =>
      rw [drawsBy, executions, hd] at h
      exact congrArg (reply fun _ => .done) (execute_reseeded random h)
  | cycle => exact congrArg (reply fun _ => .done) (cycle_reseeded random h)
  | run n => exact congrArg (reply fun _ => .done) (run_reseeded random h)
  | keys e => rfl

theorem after_reseeded (random : Random) {history : List Request} (h : m.draws history = []) :
    (m.reseeded random).after history = (m.after history).reseeded random := by
  induction history generalizing m with
  | nil => rfl
  | cons r rest ih =>
    obtain ⟨hr, hrest⟩ := List.append_eq_nil_iff.mp h
    show ((m.reseeded random).handle r).machine.after rest = _
    rw [handle_reseeded random hr]
    exact ih hrest

/-! ### The discipline -/

/-- ORDER: after any history the `j`-th draw since the start, of bytes wanted or not, has set its
register to the low byte of the `j`-th word of the stream under its mask, and the source stands
behind the last draw. What executes no draw leaves the source where it stands: another instruction,
a cycle that fails, a load, a reset. And machines of different seeds that draw nothing are the same
but for their sources. -/
theorem draws_in_order (seed : UInt64) (history : List Request) :
    let m := (powerOn (.ofSeed seed)).after history
    let draws := (powerOn (.ofSeed seed)).draws history
    (∀ j e, draws[j]? = some e → ∃ x mask, e.instruction = .random x mask ∧
        e.machine.reg x = (Random.wordAt (Random.keyOf seed) j).toUInt8 &&& mask) ∧
      m.random = ⟨Random.keyOf seed, draws.length⟩ ∧
      (∀ r, m.drawsBy r = [] → (m.handle r).machine.random = m.random) ∧
      ∀ seed', draws = [] →
        (powerOn (.ofSeed seed')).after history = { m with random := .ofSeed seed' } := by
  intro m draws
  have hdrawn : Drawn (.ofSeed seed) draws m.random := drawn_after (powerOn (.ofSeed seed)) history
  refine ⟨fun j e he => ?_, ?_, fun r hr => ?_, fun seed' hnone => ?_⟩
  · obtain ⟨x, mask, hi, hv⟩ := hdrawn.value j e he
    refine ⟨x, mask, hi, hv.trans ?_⟩
    rw [show (Random.ofSeed seed).drawn + j = j from Nat.zero_add j]
    rfl
  · rw [hdrawn.position]
    exact congrArg (Random.mk _) (Nat.zero_add _)
  · exact random_of_drawsBy hr
  · have hstart : (powerOn (.ofSeed seed)).reseeded (.ofSeed seed') = powerOn (.ofSeed seed') := rfl
    rw [← hstart]
    exact after_reseeded (.ofSeed seed') hnone

/-- The fourth draw since the start reads the fourth byte, although the second has wanted none and a
fault, a cycle of the stopped machine and a reset have come between. -/
theorem draws_in_order_over_reset :
    let program : List UInt8 := [0xc0, 0x0f, 0xc1, 0x00, 0xc2, 0xff, 0x00, 0xee]
    let history : List Request := [.load program, .run 9, .cycle, .reset, .execute (.random 3 0xff)]
    let start := powerOn (.ofSeed 42)
    (start.draws history).map (·.instruction) =
        [.random 0 0x0f, .random 1 0x00, .random 2 0xff, .random 3 0xff] ∧
      (∃ e, (start.draws history)[3]? = some e ∧ e.instruction = .random 3 0xff ∧
        e.machine.reg 3 = (Random.wordAt (Random.keyOf 42) 3).toUInt8 &&& 0xff) ∧
      (start.after history).random = ⟨Random.keyOf 42, 4⟩ ∧
      ((start.after history).handle .fetch).machine.random = (start.after history).random ∧
      start.draws [.load program] = [] ∧
      (powerOn (.ofSeed 7)).after [.load program] =
        { start.after [.load program] with random := .ofSeed 7 } := by
  intro program history start
  obtain ⟨hvalues, hposition, hidle, -⟩ := draws_in_order 42 history
  have hdraws : (start.draws history).map (·.instruction) =
      [.random 0 0x0f, .random 1 0x00, .random 2 0xff, .random 3 0xff] := by decide +kernel
  have hlength : (start.draws history).length = 4 := by
    simpa using congrArg List.length hdraws
  have hnone : start.draws [.load program] = [] := rfl
  refine ⟨hdraws, ?_, by rw [hposition, hlength], hidle .fetch rfl, hnone,
    (draws_in_order 42 [.load program]).2.2.2 7 hnone⟩
  have hfourth : ((start.draws history).map (·.instruction))[3]? = some (.random 3 0xff) := by
    rw [hdraws]
    decide
  rw [List.getElem?_map, Option.map_eq_some_iff] at hfourth
  obtain ⟨e, he, hi⟩ := hfourth
  obtain ⟨x, mask, hi', hv⟩ := hvalues 3 e he
  obtain ⟨rfl, rfl⟩ : x = 3 ∧ mask = 0xff := Instruction.random.inj (hi'.symm.trans hi)
  exact ⟨e, he, hi, hv⟩

end Chip8.Machine
