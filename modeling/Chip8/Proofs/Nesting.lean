import Mathlib.Tactic
import Chip8.Machine.History
import Chip8.Proofs.Bounds

/-! Calls and returns NEST.

    A cycle pushes the address after a call, pops an address and goes there, or leaves the stack
    alone (`stack_cycle_cases`); a supply leaves it alone as well. So what a call finds on the stack
    stays at its bottom, with the address after the call on top of it (`within_call`), until the
    stack is as deep again as before. Only a return from that call makes it so, and it goes to that
    address. -/

namespace Chip8.Machine

open Pattern (fits)

variable {m : Machine} {r : Request} {between : Nat → List Request} {k n : Nat}

/-! ### Supplies -/

/-- A supply leaves the stack and the program counter alone. -/
theorem kept_of_supplies (h : r.supplies = true) :
    (m.handle r).machine.stack = m.stack ∧ (m.handle r).machine.pc = m.pc := by
  rw [handle_of_supplies m h]
  exact ⟨rfl, rfl⟩

theorem kept_after_supplies {later : List Request} (h : ∀ r ∈ later, r.supplies = true) :
    (m.after later).stack = m.stack ∧ (m.after later).pc = m.pc := by
  rw [after_of_supplies h]
  exact ⟨rfl, rfl⟩

/-! ### Cycles -/

/-- What a cycle that succeeds does to the stack: a call, a return, or nothing. -/
theorem stack_cycle_cases (h : m.cycle.result = .ok ()) :
    (fits "2NNN" m.nextWord = true ∧ fits "00EE" m.nextWord = false ∧
        m.cycle.machine.stack = (m.pc + 2) :: m.stack) ∨
      (fits "2NNN" m.nextWord = false ∧ fits "00EE" m.nextWord = true ∧
        m.stack = m.cycle.machine.pc :: m.cycle.machine.stack) ∨
      fits "2NNN" m.nextWord = false ∧ fits "00EE" m.nextWord = false ∧
        m.cycle.machine.stack = m.stack := by
  obtain ⟨-, i, hd, ho, hc⟩ := cycle_of_success h
  have hstack : m.cycle.machine.stack = m.fetched.stackAfter i := by
    rw [hc, ← stack_effect]
    rfl
  have hpc : m.cycle.machine.pc = m.fetched.pcAfter i := by
    rw [hc, ← pc_effect]
    rfl
  rw [Pattern.fits_of_decode hd (by decide : "2NNN" ∈ Pattern.strict),
    Pattern.fits_of_decode hd (by decide : "00EE" ∈ Pattern.strict), hstack, hpc]
  cases i
  case call addr => exact .inl ⟨rfl, rfl, rfl⟩
  case ret =>
    cases hs : m.stack with
    | nil => simp [obstacle, fetched, hs] at ho
    | cons top rest => exact .inr (.inl ⟨rfl, rfl, by simp [pcAfter, stackAfter, fetched, hs]⟩)
  all_goals exact .inr (.inr ⟨rfl, rfl, rfl⟩)

/-! ### The depth of the stack -/

theorem depth_execute (hd : m.stack.length ≤ stackLimit) (i : Instruction) :
    (m.execute i).machine.stack.length ≤ stackLimit := by
  rcases execute_cases m i with ⟨f, he⟩ | ⟨ho, he⟩ <;> rw [he]
  · exact hd
  · exact depth_effect hd ho

theorem depth_cycle (hd : m.stack.length ≤ stackLimit) :
    m.cycle.machine.stack.length ≤ stackLimit := by
  rcases machine_cycle_cases m with ⟨f, hc⟩ | ⟨-, i, -, ho, hc⟩ <;> rw [hc]
  · exact hd
  · exact depth_effect hd ho

/-- No request leaves more return addresses than there is room for. -/
theorem depth_handle (hd : m.stack.length ≤ stackLimit) (r : Request) :
    (m.handle r).machine.stack.length ≤ stackLimit := by
  cases r with
  | load | loadFrom | keys => rwa [(kept_of_supplies rfl).1]
  | reset =>
    rw [handle, reply, reset_eq]
    split
    · simpa [fail] using hd
    · simp [powerOn]
  | fetch =>
    rw [handle, reply]
    rcases fetch_cases m with ⟨f, hf⟩ | ⟨w, -, hf⟩ <;> rwa [hf]
  | execute i => exact depth_execute hd i
  | executeWord w =>
    rw [handle]
    split
    · exact hd
    · rename_i o ho
      obtain ⟨i, -, rfl⟩ := Option.map_eq_some_iff.mp ho
      exact depth_execute hd i
  | cycle => exact depth_cycle hd
  | run n =>
    exact run_induction (P := fun m => m.stack.length ≤ stackLimit) (fun _ => depth_cycle) n hd

theorem depth_after (hd : m.stack.length ≤ stackLimit) (history : List Request) :
    (m.after history).stack.length ≤ stackLimit := by
  induction history generalizing m with
  | nil => exact hd
  | cons r rest ih => exact ih (depth_handle hd r)

theorem depth_course (hd : m.stack.length ≤ stackLimit) (between : Nat → List Request) (n : Nat) :
    (m.course between n).stack.length ≤ stackLimit := by
  induction n with
  | zero => exact hd
  | succ n ih => exact depth_after (depth_cycle ih) (between n)

/-! ### Courses -/

theorem kept_course (hb : ∀ k, ∀ r ∈ between k, r.supplies = true) (k : Nat) :
    (m.course between (k + 1)).stack = (m.course between k).cycle.machine.stack ∧
      (m.course between (k + 1)).pc = (m.course between k).cycle.machine.pc :=
  kept_after_supplies (hb k)

theorem courseWords_succ (m : Machine) (between : Nat → List Request) (n : Nat) :
    m.courseWords between (n + 1) =
      m.courseWords between n ++ [(m.course between n).nextWord] := by
  simp [courseWords, List.range_succ]

/-- The stack is deeper by one for each call and less deep by one for each return. -/
theorem depth_balance (hb : ∀ k, ∀ r ∈ between k, r.supplies = true)
    (hn : ∀ k < n, (m.course between k).cycle.result = .ok ()) :
    (m.course between n).stack.length + (m.courseWords between n).countP (fits "00EE") =
      m.stack.length + (m.courseWords between n).countP (fits "2NNN") := by
  induction n with
  | zero => rfl
  | succ n ih =>
    have hbefore := ih fun k hk => hn k (Nat.lt_succ_of_lt hk)
    rw [(kept_course hb n).1, courseWords_succ, List.countP_append, List.countP_append]
    rcases stack_cycle_cases (hn n (Nat.lt_succ_self n)) with
      ⟨hcall, hret, hs⟩ | ⟨hcall, hret, hs⟩ | ⟨hcall, hret, hs⟩
    · simp [hcall, hret, hs]
      omega
    · rw [hs] at hbefore
      simp [hcall, hret] at hbefore ⊢
      omega
    · simp [hcall, hret, hs, hbefore]

/-- What a call found on the stack stays at its bottom, with the address after the call on top of
it, until the stack is as deep again. Then the call has returned to that address. -/
theorem within_call (hb : ∀ k, ∀ r ∈ between k, r.supplies = true)
    (hcall : fits "2NNN" m.nextWord = true) (hk : 0 < k)
    (hn : ∀ j < k, (m.course between j).cycle.result = .ok ())
    (hdeep : ∀ j, 0 < j → j < k → (m.course between j).stack.length ≠ m.stack.length) :
    (∃ above, (m.course between k).stack = above ++ (m.pc + 2) :: m.stack) ∨
      (m.course between k).stack = m.stack ∧ (m.course between k).pc = m.pc + 2 := by
  induction k, hk using Nat.le_induction with
  | base =>
    rw [(kept_course hb 0).1]
    rcases stack_cycle_cases (hn 0 (Nat.zero_lt_one)) with
      ⟨-, -, hs⟩ | ⟨hno, -, -⟩ | ⟨hno, -, -⟩
    · exact .inl ⟨[], hs⟩
    · rw [course, hcall] at hno
      cases hno
    · rw [course, hcall] at hno
      cases hno
  | succ k hk ih =>
    obtain ⟨above, habove⟩ := (ih (fun j hj => hn j (Nat.lt_succ_of_lt hj))
      fun j hj hjk => hdeep j hj (Nat.lt_succ_of_lt hjk)).resolve_right
        fun h => hdeep k hk (Nat.lt_succ_self k) (by rw [h.1])
    obtain ⟨hstack, hpc⟩ := kept_course hb k
    rw [hstack, hpc]
    rcases stack_cycle_cases (hn k (Nat.lt_succ_self k)) with
      ⟨-, -, hs⟩ | ⟨-, -, hs⟩ | ⟨-, -, hs⟩
    · exact .inl ⟨_ :: above, by rw [hs, habove]; rfl⟩
    · rw [habove] at hs
      -- the return pops what lies above, or, if nothing does, it is the one from the call
      cases above with
      | nil =>
        obtain ⟨hpop, hrest⟩ := List.cons.inj hs
        exact .inr ⟨hrest.symm, hpop.symm⟩
      | cons a rest => exact .inl ⟨rest, (List.cons.inj hs).2.symm⟩
    · exact .inl ⟨above, hs.trans habove⟩

/-- NEST: over any course of cycles that succeed, from a machine after any history, the stack is
deeper by the calls and less deep by the returns that were made, and never holds more than sixteen
addresses. If the course begins with a call, then before the stack is as deep again as it was, it
has its first addresses at the bottom and the address after the call just above them; and where it
is as deep again for the first time, it is the stack of before and the machine is at that
address. -/
theorem calls_nest (random : Random) (history : List Request) (between : Nat → List Request)
    (n : Nat) (hb : ∀ k, ∀ r ∈ between k, r.supplies = true) :
    let m := (powerOn random).after history
    let state (k : Nat) := m.course between k
    let depth (k : Nat) := (state k).stack.length
    (∀ k < n, (state k).cycle.result = .ok ()) →
      (depth n + (m.courseWords between n).countP (fits "00EE") =
          depth 0 + (m.courseWords between n).countP (fits "2NNN") ∧ depth n ≤ 16) ∧
      (fits "2NNN" m.nextWord = true → 0 < n → (∀ k, 0 < k → k < n → depth k ≠ depth 0) →
        (∀ k < n, ∃ above, (state k).stack = above ++ m.stack ∧
          (0 < k → ∃ inner, above = inner ++ [m.pc + 2])) ∧
        (depth n = depth 0 → (state n).pc = m.pc + 2 ∧ (state n).stack = m.stack)) := by
  intro m state depth hn
  have hm : m.stack.length ≤ stackLimit := depth_after (Nat.zero_le _) history
  refine ⟨⟨depth_balance hb hn, depth_course hm between n⟩, ?_⟩
  intro hcall hpos hdeep
  constructor
  · intro k hk
    cases k with
    | zero => exact ⟨[], rfl, by simp⟩
    | succ k =>
      have hwithin := within_call hb hcall (Nat.succ_pos k) (fun j hj => hn j (by omega))
        fun j hj hjk => hdeep j hj (by omega)
      obtain ⟨inner, hinner⟩ := hwithin.resolve_right fun h =>
        hdeep (k + 1) (Nat.succ_pos k) hk (congrArg List.length h.1)
      exact ⟨inner ++ [m.pc + 2], by simpa using hinner, fun _ => ⟨inner, rfl⟩⟩
  · intro hback
    rcases within_call hb hcall hpos hn hdeep with ⟨above, habove⟩ | ⟨hstack, hpc⟩
    · have hlength := congrArg List.length habove
      have hback' : (m.course between n).stack.length = m.stack.length := hback
      simp at hlength
      omega
    · exact ⟨hpc, hstack⟩

/-- A call in a call, while the program is loaded over itself and a key goes down: the inner one
returns first, and after four cycles the machine is behind the outer one. -/
theorem calls_nest_twice :
    let program : List UInt8 := [0x22, 0x04, 0x12, 0x02, 0x22, 0x08, 0x00, 0xee, 0x00, 0xee]
    let between : Nat → List Request := fun k => [.load (program ++ [.ofNat k]), .keys (.press 5)]
    let m := (powerOn (.ofSeed 0)).after [.load program]
    let state (k : Nat) := m.course between k
    (∀ k, ∀ r ∈ between k, r.supplies = true) ∧ (∀ k < 4, (state k).cycle.result = .ok ()) ∧
      m.courseWords between 4 = [0x2204, 0x2208, 0x00ee, 0x00ee] ∧
      (∃ inner, (state 2).stack = inner ++ [m.pc + 2] ++ m.stack) ∧
      (state 4).stack.length + 2 = (state 0).stack.length + 2 ∧
      (state 4).pc = m.pc + 2 ∧ (state 4).stack = m.stack := by
  intro program between m state
  have hb : ∀ k, ∀ r ∈ between k, r.supplies = true := by
    intro k r hr
    fin_cases hr <;> rfl
  obtain ⟨hn, hwords, hdeep⟩ : (∀ k < 4, (state k).cycle.result = .ok ()) ∧
      m.courseWords between 4 = [0x2204, 0x2208, 0x00ee, 0x00ee] ∧
      ∀ k < 4, 0 < k → (state k).stack.length ≠ (state 0).stack.length := by decide +kernel
  have hcall : fits "2NNN" m.nextWord = true := by
    have hfirst : m.nextWord = 0x2204 := (List.cons.inj hwords).1
    rw [hfirst]
    decide
  obtain ⟨⟨hbalance, -⟩, hnest⟩ := calls_nest (.ofSeed 0) [.load program] between 4 hb hn
  obtain ⟨hwithin, hback⟩ := hnest hcall (by decide) fun k hk hk4 => hdeep k hk4 hk
  obtain ⟨above, hstack, hlast⟩ := hwithin 2 (by decide)
  obtain ⟨inner, rfl⟩ := hlast (by decide)
  have hlevel : (state 4).stack.length + 2 = (state 0).stack.length + 2 := by
    have hcounts : [0x2204, 0x2208, 0x00ee, 0x00ee].countP (fits "00EE") = 2 ∧
        [0x2204, 0x2208, 0x00ee, 0x00ee].countP (fits "2NNN") = 2 := by decide
    rw [hwords, hcounts.1, hcounts.2] at hbalance
    exact hbalance
  exact ⟨hb, hn, hwords, ⟨inner, hstack⟩, hlevel, hback (Nat.add_right_cancel hlevel)⟩

end Chip8.Machine
