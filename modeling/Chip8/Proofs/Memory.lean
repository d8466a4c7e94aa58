import Mathlib.Tactic
import Chip8.Memory.Bytes

/-! Memory holds what was WRITTEN LAST.

    An edit is a write to where it writes, or a clearing (`edit_eq`), so its answer can be told from
    it alone (`edit_eq_answer`), and so can the bytes that it changes (`byteAt_edited`). By induction
    from the end of a history each address has the byte of the latest edit that covers it
    (`byteAt_after`). Memory as it lies in a host does the same (`serve_memory`): where the range of
    an access lies in memory it lies in the bytes, of which there are 4096 from power-on to the end.
    The one thing that stops a host is a range whose end it cannot hold. -/

namespace Chip8

namespace Memory

variable {e : Edit} {addr : UInt16} {data : List UInt8}

/-! ### One edit -/

theorem edit_eq (m : Memory) (e : Edit) : m.edit e =
    match e.target? with
    | none => .ok powerOn
    | some (addr, data) => m.write addr data := by
  cases e with
  | fill addr len value => simp [edit, fill, Edit.target?, write]
  | write | loadProgram | setByte | clear => rfl

/-- An edit is answered by where it writes and how much, and leaves what is then there. -/
theorem edit_eq_answer (m : Memory) (e : Edit) : m.edit e = e.answer.map fun _ => m.edited e := by
  rw [edited, Edit.answer, edit_eq]
  cases e.target? with
  | none => rfl
  | some target =>
    obtain ⟨addr, data⟩ := target
    by_cases h : addr.toNat + data.length ≤ 4096
    · simp [write, inRange, h, Except.map]
    · simp [write, inRange, outOfRange, h, Except.map]

theorem edited_of_error (m : Memory) {f : Fault} (h : e.answer = .error f) : m.edited e = m := by
  rw [edited, edit_eq_answer, h]
  rfl

theorem answer_fill (addr : UInt16) (len : Nat) (value : UInt8) :
    (Edit.fill addr len value).answer =
      if addr.toNat + len ≤ 4096 then .ok () else .error (.addressOutOfRange addr.toNat len) := by
  simp [Edit.answer, Edit.target?]

theorem held_fill (host : Host) (addr : UInt16) (len : Nat) (value : UInt8) :
    (Edit.fill addr len value).held host = host.holds (addr.toNat + len) := by
  simp [Edit.held, Edit.target?]

/-- What an edit changes of memory. -/
theorem byteAt_edited (m : Memory) (e : Edit) (a : Nat) : (m.edited e).byteAt a =
    match e.target? with
    | none => powerOn.byteAt a
    | some (addr, data) =>
      if addr.toNat + data.length ≤ 4096 ∧ addr.toNat ≤ a ∧ a < addr.toNat + data.length then
        data[a - addr.toNat]?.getD 0
      else m.byteAt a := by
  rw [edited, edit_eq]
  cases e.target? with
  | none => rfl
  | some target =>
    obtain ⟨addr, data⟩ := target
    by_cases h : addr.toNat + data.length ≤ 4096
    · have hr : inRange addr data.length = true := by simpa [inRange] using h
      simp only [write, hr, if_true, byteAt_store m addr.toNat data h, h, true_and]
      by_cases hlo : addr.toNat ≤ a
      · by_cases hhi : a < addr.toNat + data.length
        · have hk : a - addr.toNat < data.length := by omega
          simp [hlo, hhi, hk]
        · have hk : data.length ≤ a - addr.toNat := by omega
          simp [hlo, hhi, hk]
      · simp [hlo]
    · simp [write, inRange, h]

/-! ### Histories of edits -/

theorem byteAt_powerOn (a : Nat) : powerOn.byteAt a = powerOnByte a := by
  have hzero : (⟨Vector.replicate size 0⟩ : Memory).byteAt a = 0 := by
    by_cases h : a < size
    · simp [byteAt, h]
    · exact byteAt_of_size_le _ (Nat.not_lt.mp h)
  have hlength : font.length = 80 := rfl
  rw [powerOn, byteAt_store _ _ _ (by decide), hzero, powerOnByte]
  show (if 0x50 ≤ a then font[a - 0x50]?.getD 0 else 0) = _
  by_cases hlo : 0x50 ≤ a
  · by_cases hhi : a ≤ 0x9f
    · rw [if_pos hlo, if_pos ⟨hlo, hhi⟩]
    · rw [if_pos hlo, if_neg (by omega), List.getElem?_eq_none (by omega), Option.getD_none]
  · rw [if_neg hlo, if_neg (by omega)]

theorem after_concat (m : Memory) (history : List Edit) (e : Edit) :
    m.after (history ++ [e]) = (m.after history).edited e := by
  simp [after]

/-- Every address has the byte of the latest edit that covers it. -/
theorem byteAt_after (history : List Edit) (a : Nat) :
    (powerOn.after history).byteAt a = latest a history.reverse := by
  induction history using List.reverseRecOn with
  | nil => exact byteAt_powerOn a
  | append_singleton earlier e ih =>
    rw [after_concat, byteAt_edited, ih, List.reverse_append, List.reverse_singleton,
      List.singleton_append, latest]
    cases e.target? with
    | none => exact byteAt_powerOn a
    | some target => rfl

/-! ### Reading -/

theorem outOfRange_eq (addr : UInt16) (len : Nat) :
    outOfRange addr len = .addressOutOfRange addr.toNat len := rfl

/-- Memory holds its bytes. -/
theorem holds_byteAt (m : Memory) : m.Holds m.byteAt where
  read addr len := by
    simp only [read, inRange, outOfRange_eq, decide_eq_true_eq, slice, List.range'_eq_map_range,
      List.map_map]
    rfl
  byte addr := by simp only [byte, inRange, outOfRange_eq, decide_eq_true_eq]
  word addr := by
    by_cases h : addr.toNat + 2 ≤ 4096
    · rw [if_pos h, word_of_le (by omega), wordAt]
    · rw [if_neg h, word_of_gt (by omega), outOfRange_eq]

end Memory

/-! ### In a host -/

namespace Bytes

open Memory (Edit)

variable {addr len : Nat} {data : Bytes}

/-- What a host answers and keeps after a change of a memory that may have failed. -/
def ofChange (m : Memory) : Except Fault Memory → Except Fault Unit × Bytes
  | .ok m' => (.ok (), m'.bytes.toList)
  | .error f => (.error f, m.bytes.toList)

theorem getElem?_memory (m : Memory) (k : Nat) :
    m.bytes.toList[k]? = if k < 4096 then some (m.byteAt k) else none := by
  by_cases h : k < 4096
  · simp [Memory.byteAt, h]
  · simp [h]

/-- The bytes of a memory are all there is to it. -/
theorem ofBytes_toList (m : Memory) : Memory.ofBytes m.bytes.toList = m := by
  have hbytes : Vector.ofFn (fun k : Fin 4096 => m.bytes.toList[k.val]?.getD 0) = m.bytes := by
    ext k hk
    simp
  rw [Memory.ofBytes, hbytes]

theorem part?_memory (m : Memory) (h : addr + len ≤ 4096) :
    part? m.bytes.toList addr len = some (m.slice addr len) := by
  have hlist : (m.bytes.toList.drop addr).take len = m.slice addr len := by
    refine List.ext_getElem? fun k => ?_
    rw [Memory.getElem?_slice, List.getElem?_take]
    by_cases hk : k < len
    · rw [if_pos hk, if_pos hk, List.getElem?_drop, getElem?_memory, if_pos (by omega)]
    · rw [if_neg hk, if_neg hk]
  rw [part?, if_pos (by simpa using h), hlist]

theorem copy?_memory (m : Memory) (h : addr + data.length ≤ 4096) :
    copy? m.bytes.toList addr data.length data = some (m.store addr data).bytes.toList := by
  have hlist : m.bytes.toList.take addr ++ data ++ m.bytes.toList.drop (addr + data.length) =
      (m.store addr data).bytes.toList := by
    refine List.ext_getElem? fun k => ?_
    have htake : (m.bytes.toList.take addr).length = addr := by simp; omega
    rw [getElem?_memory, Memory.byteAt_store m addr data h]
    -- before the range, in it, and behind it
    rcases Nat.lt_or_ge k addr with hlo | hlo
    · rw [List.append_assoc, List.getElem?_append_left (by omega), List.getElem?_take_of_lt hlo,
        getElem?_memory, if_neg (Nat.not_le.mpr hlo)]
    · rw [if_pos hlo]
      rcases Nat.lt_or_ge k (addr + data.length) with hhi | hhi
      · have hk : k - addr < data.length := by omega
        rw [List.getElem?_append_left (by simp; omega), List.getElem?_append_right (by omega),
          htake, if_pos (by omega)]
        simp [hk]
      · have hk : data.length ≤ k - addr := by omega
        rw [List.getElem?_append_right (by simp; omega), List.getElem?_drop, getElem?_memory,
          List.length_append, htake, Nat.add_sub_cancel' hhi, List.getElem?_eq_none hk,
          Option.getD_none]
  rw [copy?, if_pos ⟨by simpa using h, rfl⟩, hlist]

/-- A range of the bytes of a memory is read as the memory is, if the host can hold where it ends. -/
theorem read?_memory (host : Host) (m : Memory) (addr : UInt16) (len : Nat) :
    read? host m.bytes.toList addr len =
      if host.holds (addr.toNat + len) then some (m.read addr len) else none := by
  cases hheld : host.holds (addr.toNat + len) with
  | false => simp [read?, Memory.inRange?_of_not_holds hheld]
  | true =>
    rw [read?, Memory.inRange?_of_holds hheld, Memory.read, Memory.inRange]
    by_cases h : addr.toNat + len ≤ 4096
    · simp [h, part?_memory m h]
    · simp [h]

/-- A copy to the bytes of a memory is a write to it, and if that fails the bytes stay. -/
theorem write?_memory (host : Host) (m : Memory) (addr : UInt16) (data : Bytes) :
    write? host m.bytes.toList addr data.length (fun _ => some data) =
      if host.holds (addr.toNat + data.length) then some (ofChange m (m.write addr data))
      else none := by
  cases hheld : host.holds (addr.toNat + data.length) with
  | false => simp [write?, Memory.inRange?_of_not_holds hheld]
  | true =>
    rw [write?, Memory.inRange?_of_holds hheld, Memory.write, Memory.inRange]
    by_cases h : addr.toNat + data.length ≤ 4096
    · simp [h, copy?_memory m h, ofChange]
    · simp [h, ofChange]

theorem replicate_zero_toList : List.replicate 4096 0 =
    (⟨Vector.replicate Memory.size 0⟩ : Memory).bytes.toList := by
  simp

theorem powerOn?_eq : powerOn? = some Memory.powerOn.bytes.toList := by
  rw [powerOn?, replicate_zero_toList]
  exact copy?_memory _ (by decide)

theorem clear?_memory (m : Memory) : clear? m.bytes.toList = some Memory.powerOn.bytes.toList := by
  rw [clear?, Vector.length_toList]
  exact powerOn?_eq

theorem edit?_eq (host : Host) (m : Memory) (e : Edit) : edit? host m.bytes.toList e =
    if e.held host then some (ofChange m (m.edit e)) else none := by
  cases e with
  | write addr data => exact write?_memory host m addr data
  | loadProgram program => exact write?_memory host m Memory.programStart program
  | setByte addr value => exact write?_memory host m addr [value]
  | fill addr len value =>
    have hwrite : m.edit (.fill addr len value) = m.write addr (.replicate len value) :=
      Memory.edit_eq m _
    have hcopy := write?_memory host m addr (.replicate len value)
    rw [List.length_replicate] at hcopy
    rw [hwrite, edit?, hcopy, Memory.held_fill]
  | clear =>
    rw [edit?, clear?_memory]
    rfl

theorem ofChange_edit (m : Memory) (e : Edit) :
    ofChange m (m.edit e) = (e.answer, (m.edited e).bytes.toList) := by
  rw [Memory.edit_eq_answer]
  cases ha : e.answer with
  | error f =>
    rw [Memory.edited_of_error m ha]
    rfl
  | ok a => rfl

theorem edit?_memory (host : Host) (m : Memory) (e : Edit) : edit? host m.bytes.toList e =
    if e.held host then some (e.answer, (m.edited e).bytes.toList) else none := by
  rw [edit?_eq, ofChange_edit]

theorem byte?_memory (host : Host) (m : Memory) (addr : UInt16) :
    byte? host m.bytes.toList addr = some (m.byte addr) := by
  have ha := addr.toNat_lt
  rw [byte?, read?_memory, if_pos (Host.holds_of_lt (by omega)), Memory.read, Memory.byte]
  cases Memory.inRange addr 1 with
  | false => rfl
  | true => rfl

theorem word?_memory (host : Host) (m : Memory) (addr : UInt16) :
    word? host m.bytes.toList addr = some (m.word addr) := by
  have ha := addr.toNat_lt
  rw [word?, read?_memory, if_pos (Host.holds_of_lt (by omega)), Memory.read, Memory.word]
  cases Memory.inRange addr 2 with
  | false => rfl
  | true => rfl

/-- The bytes of a memory serve for it. -/
theorem serve_memory (host : Host) (m : Memory) : Serve host m.bytes.toList m where
  read := read?_memory host m
  byte := byte?_memory host m
  word := word?_memory host m
  edit := edit?_memory host m

/-- A history stops a host at the first edit whose end it cannot hold, and goes through if there is
none. -/
theorem editAll?_memory (host : Host) (m : Memory) (history : List Edit) :
    editAll? host m.bytes.toList history =
      if history.all (·.held host) then
        some (history.map Edit.answer, (m.after history).bytes.toList)
      else none := by
  induction history generalizing m with
  | nil => rfl
  | cons e rest ih =>
    rw [editAll?, edit?_memory]
    cases he : e.held host with
    | false => simp [he]
    | true =>
      simp only [if_true, Option.bind_eq_bind, Option.bind_some, ih (m.edited e), List.all_cons, he,
        Bool.true_and]
      cases rest.all (·.held host) <;> rfl

end Bytes

namespace Memory

/-- LAST WRITTEN: after any history of edits memory holds at each address the byte of the latest edit
that succeeded and covers it, or else its power-on byte. Every edit is answered by where it writes
and how much, and one that fails leaves memory alone. A host to which memory is bytes in a row gives
the same answers from power-on to the end, unless it is asked for a range whose end it cannot hold;
that stops it, and nothing else does. -/
theorem latest_edit_holds (host : Host) (history : List Edit) :
    let m := powerOn.after history
    (m.Holds fun a => latest a history.reverse) ∧
      (∀ e, m.edit e = e.answer.map fun _ => m.edited e) ∧
      (∀ e f, e.answer = .error f → m.edited e = m) ∧
      (Bytes.powerOn?.bind fun bytes => Bytes.editAll? host bytes history) =
        (if history.all (·.held host) then some (history.map Edit.answer, m.bytes.toList)
          else none) ∧
      Bytes.Serve host m.bytes.toList m := by
  intro m
  have hshown : m.byteAt = fun a => latest a history.reverse := funext (byteAt_after history)
  refine ⟨hshown ▸ holds_byteAt m, edit_eq_answer m, fun e f => edited_of_error m, ?_,
    Bytes.serve_memory host m⟩
  rw [Bytes.powerOn?_eq]
  exact Bytes.editAll?_memory host powerOn history

/-- The longest range that a host of sixty-four bits can be asked for lies outside memory, but where
it ends is more than the host can hold: there is no answer to reading it or to filling it. -/
theorem longest_range_stops :
    powerOn.read 1 18446744073709551615 = .error (.addressOutOfRange 1 18446744073709551615) ∧
      (Edit.fill 1 18446744073709551615 0).answer =
        .error (.addressOutOfRange 1 18446744073709551615) ∧
      (Bytes.powerOn?.bind fun bytes => Bytes.read? .wide bytes 1 18446744073709551615) = none ∧
      (Bytes.powerOn?.bind fun bytes =>
        Bytes.edit? .wide bytes (.fill 1 18446744073709551615 0)) = none := by
  have hheld : Host.wide.holds ((1 : UInt16).toNat + 18446744073709551615) = false := by
    simp [Host.holds, Host.wide]
  have hend : ¬ (1 : UInt16).toNat + 18446744073709551615 ≤ 4096 := by simp
  refine ⟨?_, ?_, ?_, ?_⟩
  · rw [(holds_byteAt powerOn).read, if_neg hend, UInt16.toNat_one]
  · rw [answer_fill, if_neg hend, UInt16.toNat_one]
  · rw [Bytes.powerOn?_eq, Option.bind_some, Bytes.read?_memory, hheld, if_neg Bool.false_ne_true]
  · rw [Bytes.powerOn?_eq, Option.bind_some, Bytes.edit?_memory, held_fill, hheld,
      if_neg Bool.false_ne_true]

end Memory

end Chip8
