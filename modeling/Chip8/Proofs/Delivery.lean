import Mathlib.Tactic
import Chip8.Machine.Delivery
import Chip8.Proofs.Loading
import Chip8.Proofs.Reset

/-! A load is ALL OR NOTHING, and the pieces that a program comes in make no difference.

    What can be read from a source is all that it delivers, or its failure (`contents_eq`), and a
    load looks at nothing else. By induction on the pieces that come before it, an end or a failure
    is found behind any of them (`contents_append`). What a load then leaves is read off the two
    courses that it can take, and a reset is a load into a new machine. -/

namespace Chip8

namespace ByteSource

variable {chunks : List (List UInt8)} {rest : ByteSource}

/-- What can be read from a source. -/
theorem contents_eq (source : ByteSource) : source.contents =
    match source.failure? with
    | some e => .error e
    | none => .ok source.delivered.flatten := by
  induction source with
  | nil => rfl
  | cons piece rest ih =>
    cases piece with
    | failure e => rfl
    | bytes data =>
      cases data with
      | nil => rfl
      | cons b data =>
        rw [contents, ih, failure?, delivered]
        · cases failure? rest <;> rfl
        · simp

theorem delivered_of_contents {source : ByteSource} {program : List UInt8}
    (h : source.contents = .ok program) : source.delivered.flatten = program := by
  rw [contents_eq] at h
  cases hf : source.failure? with
  | some e =>
    rw [hf] at h
    cases h
  | none =>
    rw [hf] at h
    exact Except.ok.inj h

/-- Pieces that are not empty are read one after the other, up to what follows them. -/
theorem contents_append (h : [] ∉ chunks) :
    contents (chunks.map .bytes ++ rest) = (contents rest).map (chunks.flatten ++ ·) := by
  induction chunks with
  | nil => cases hc : contents rest <;> simp [hc, Except.map]
  | cons chunk chunks ih =>
    rw [List.mem_cons, not_or] at h
    cases chunk with
    | nil => exact absurd rfl h.1
    | cons b data =>
      rw [List.map_cons, List.cons_append, contents, ih h.2]
      · cases contents rest <;> simp [Except.map]
      · simp

theorem contents_chunks (h : [] ∉ chunks) :
    contents (chunks.map .bytes) = .ok chunks.flatten := by
  have happend : contents (chunks.map .bytes ++ []) = .ok (chunks.flatten ++ []) :=
    contents_append h
  rwa [List.append_nil, List.append_nil] at happend

theorem contents_failure (h : [] ∉ chunks) (e : ReadError) :
    contents (chunks.map .bytes ++ .failure e :: rest) = .error e :=
  contents_append h

end ByteSource

namespace Machine

variable {m m' : Machine} {program : List UInt8} {source : ByteSource}

/-! ### Loading what was read -/

/-- A load from a source that comes to its end is the load of all its bytes, which it counts. -/
theorem loadFrom_of_ok (h : source.contents = .ok program) :
    m.loadFrom source = ⟨((m.load program).result.map fun _ => program.length).mapError .fault,
      (m.load program).machine, (m.load program).log⟩ := by
  rw [loadFrom, h]
  cases hr : (m.load program).result <;> simp [hr, Except.map, Except.mapError]

theorem result_load (m : Machine) (program : List UInt8) : (m.load program).result =
    if program.length ≤ 3584 then .ok () else .error (.addressOutOfRange 512 program.length) := by
  by_cases h : program.length ≤ 3584
  · rw [if_pos h, load_of_le h]
  · rw [if_neg h, load_of_gt (Nat.lt_of_not_le h)]
    rfl

/-! ### What is left -/

theorem loaded_load (h : program.length ≤ 3584) : Loaded m program (m.load program).machine := by
  have hbytes (a : Nat) : (m.load program).machine.memory.byteAt a =
      if 512 ≤ a then program[a - 512]?.getD (m.memory.byteAt a) else m.memory.byteAt a := by
    rw [load_of_le h]
    exact Memory.byteAt_store m.memory 512 program (by rw [Memory.size]; omega) a
  refine
    { verbatim := fun k hk => ?_
      beside := fun a ha => ?_
      retained := by rw [load_of_le h]
      others := by rw [load_of_le h] }
  · rw [hbytes, if_pos (Nat.le_add_right ..), Nat.add_sub_cancel_left,
      List.getElem?_eq_getElem hk, Option.getD_some]
  · rw [hbytes]
    by_cases hle : 512 ≤ a
    · rw [if_pos hle, List.getElem?_eq_none (by omega), Option.getD_none]
    · rw [if_neg hle]

/-- After any requests of which none loads another program, a reset loads the one that was
retained into a new machine. -/
theorem loaded_reset (h : m.program.length ≤ 3584) {later : List Request}
    (hlater : m.lastLoaded later = none) :
    (m.after later).reset.result = .ok () ∧
      Loaded (powerOn (m.after later).random) m.program (m.after later).reset.machine := by
  have hprogram : (m.after later).program = m.program := by
    rw [program_after, hlater, Option.getD_none]
  rw [reset_of_le (hprogram ▸ h), hprogram]
  exact ⟨rfl, loaded_load h⟩

theorem allOrNothing_fail {ε α : Type} (m : Machine) (program : List UInt8) (e : ε) :
    AllOrNothing m program (m.fail e : Outcome ε α) where
  all h := by cases h
  nothing _ := ⟨rfl, rfl⟩
  restored _ hfits _ hlater := loaded_reset hfits hlater

theorem allOrNothing_of_loaded {ε α : Type} {o : Outcome ε α} (hok : o.succeeded = true)
    (hfits : program.length ≤ 3584) (h : Loaded m program o.machine) :
    AllOrNothing m program o where
  all _ := ⟨hfits, h⟩
  nothing hno := absurd hok (by simp [hno])
  restored hno := absurd hok (by simp [hno])

theorem allOrNothing_load (m : Machine) (program : List UInt8) :
    AllOrNothing m program (m.load program) := by
  rcases load_cases m program with ⟨f, hl⟩ | ⟨hfits, hl⟩
  · rw [hl]
    exact allOrNothing_fail m program f
  · exact allOrNothing_of_loaded (by rw [hl]; rfl) hfits (loaded_load hfits)

theorem allOrNothing_loadFrom (m : Machine) (source : ByteSource) :
    AllOrNothing m source.delivered.flatten (m.loadFrom source) := by
  rcases loadFrom_cases m source with ⟨e, hl⟩ | ⟨program, hc, hfits, hl⟩
  · rw [hl]
    exact allOrNothing_fail m _ e
  · rw [ByteSource.delivered_of_contents hc]
    exact allOrNothing_of_loaded (by rw [hl]; rfl) hfits (by rw [hl]; exact loaded_load hfits)

/-- ALL OR NOTHING: a source that comes to its end loads as all that it delivers does, with the
bytes counted, and so does any other source that delivers the same bytes in whatever pieces; one
that fails behind whatever pieces is the failure. Either load changes nothing if it fails, so that
a later reset finds the program from before, and otherwise writes and retains the program and
leaves everything else alone. The program from before can be brought back, as it fits in every
machine that was ever switched on. -/
theorem load_all_or_nothing (m : Machine) (source : ByteSource) :
    let p := source.delivered.flatten
    let o := m.loadFrom source
    (source.failure? = none →
      o = ⟨((m.load p).result.map fun _ => p.length).mapError .fault, (m.load p).machine,
        (m.load p).log⟩ ∧
      ∀ chunks : List (List UInt8), [] ∉ chunks → chunks.flatten = p →
        m.loadFrom (chunks.map .bytes) = o) ∧
    (∀ e, source.failure? = some e →
      o = m.fail (.read e) ∧
      ∀ (chunks : List (List UInt8)) (rest : ByteSource), [] ∉ chunks →
        m.loadFrom (chunks.map .bytes ++ .failure e :: rest) = o) ∧
    AllOrNothing m p o ∧
    (∀ program, (m.load program).result = (if program.length ≤ 3584 then .ok ()
        else .error (.addressOutOfRange 512 program.length)) ∧
      AllOrNothing m program (m.load program)) ∧
    ∀ random history, m = (powerOn random).after history → m.program.length ≤ 3584 := by
  intro p o
  have hcontents := ByteSource.contents_eq source
  refine ⟨fun hend => ?_, fun e hfailed => ?_, allOrNothing_loadFrom m source,
    fun program => ⟨result_load m program, allOrNothing_load m program⟩,
    fun random history hm => hm ▸ length_program_after random history⟩
  · rw [hend] at hcontents
    have ho : o = _ := loadFrom_of_ok hcontents
    refine ⟨ho, fun chunks hne hsame => ?_⟩
    rw [ho, loadFrom_of_ok (ByteSource.contents_chunks hne), hsame]
  · rw [hfailed] at hcontents
    have ho : o = m.fail (.read e) := loadFrom_of_error hcontents
    refine ⟨ho, fun chunks rest hne => ?_⟩
    rw [ho, loadFrom_of_error (ByteSource.contents_failure hne e)]

end Machine

end Chip8
