import Mathlib.Data.List.Induction
import Taskflow.Time.Layout
/-!
Reading timestamps back.
-/

namespace Taskflow.Time

/-! ## Bytes of a text -/

def bytesOf (s : String) : List Nat := s.toUTF8.toList.map (·.toNat)

theorem toList_loop_eq (bs : ByteArray) (i : Nat) (r : List UInt8) :
    ByteArray.toList.loop bs i r = r.reverse ++ bs.data.toList.drop i := by
  induction i, r using ByteArray.toList.loop.induct bs with
  | case1 i r h ih =>
    rw [ByteArray.toList.loop, if_pos h, ih]
    have hi : i < bs.data.toList.length := by simpa using h
    rw [List.drop_eq_getElem_cons hi]
    simp [ByteArray.get!, h]
  | case2 i r h =>
    rw [ByteArray.toList.loop, if_neg h]
    have hi : bs.data.toList.length ≤ i := by simpa using h
    simp [List.drop_eq_nil_of_le hi]

theorem bytesOf_eq (s : String) :
    bytesOf s = (s.toList.flatMap String.utf8EncodeChar).map UInt8.toNat := by
  have h : s.toByteArray = s.toList.utf8Encode := by
    rw [← String.toByteArray_ofList, String.ofList_toList]
  rw [bytesOf, ByteArray.toList, toList_loop_eq, String.toUTF8_eq_toByteArray, h,
    List.utf8Encode, List.toList_data_toByteArray]
  simp

@[simp] theorem bytesOf_append (s t : String) : bytesOf (s ++ t) = bytesOf s ++ bytesOf t := by
  simp [bytesOf_eq, String.toList_append]

theorem length_le_flatMap (l : List Char) :
    l.length ≤ (l.flatMap String.utf8EncodeChar).length := by
  induction l with
  | nil => simp
  | cons c cs ih =>
    have := Char.utf8Size_pos c
    rw [List.flatMap_cons, List.length_append, String.length_utf8EncodeChar, List.length_cons]
    omega

theorem length_le_bytesOf (s : String) : s.length ≤ (bytesOf s).length := by
  rw [bytesOf_eq, List.length_map, ← String.length_toList]
  exact length_le_flatMap s.toList

theorem flatMap_ascii {l : List Char} (h : ∀ c ∈ l, c.toNat < 128) :
    (l.flatMap String.utf8EncodeChar).map UInt8.toNat = l.map Char.toNat := by
  induction l with
  | nil => rfl
  | cons c cs ih =>
    have hc : c.toNat < 128 := h c List.mem_cons_self
    have hv : c.toNat = c.val.toNat := rfl
    have h1 : c.utf8Size = 1 := by
      rw [Char.utf8Size_eq_one_iff, UInt32.le_iff_toNat_le]
      exact Nat.le_of_lt_succ hc
    rw [List.flatMap_cons, String.utf8EncodeChar_eq_singleton h1, List.map_append, List.map_cons,
      ih fun c' hc' => h c' (List.mem_cons_of_mem c hc')]
    simp only [List.map_cons, List.map_nil, List.singleton_append, List.cons.injEq, and_true]
    rw [UInt32.toNat_toUInt8]
    exact Nat.mod_eq_of_lt (by omega)

theorem bytesOf_ascii {s : String} (h : ∀ c ∈ s.toList, c.toNat < 128) :
    bytesOf s = s.toList.map Char.toNat := by
  rw [bytesOf_eq, flatMap_ascii h]

/-! ## Digits -/

theorem byteAt_drop (bs : List Nat) (i j : Nat) : byteAt (bs.drop i) j = byteAt bs (i + j) := by
  simp [byteAt, List.getD_eq_getElem?_getD]

theorem digitsAt_drop (bs : List Nat) (i : Nat) :
    ∀ n, digitsAt (bs.drop i) 0 n = digitsAt bs i n
  | 0 => rfl
  | n + 1 => by
    simp only [digitsAt, byteAt_drop, Nat.zero_add, digitsAt_drop bs i n]

theorem isDigitByte_of_isDigit {c : Char} (h : c.isDigit) : isDigitByte c.toNat := by
  simp only [Char.isDigit, Bool.and_eq_true, decide_eq_true_eq] at h
  simp only [isDigitByte, Bool.and_eq_true, decide_eq_true_eq]
  exact ⟨h.1, h.2⟩

theorem digitsAt_digits {ds : List Char} (hd : ∀ c ∈ ds, c.isDigit) (r : List Nat) :
    digitsAt (ds.map Char.toNat ++ r) 0 ds.length = some (Nat.ofDigitChars 10 ds 0) := by
  induction ds using List.reverseRecOn generalizing r with
  | nil => rfl
  | append_singleton ds c ih =>
    have hc : isDigitByte c.toNat := isDigitByte_of_isDigit (hd c (by simp))
    have hrest := ih (fun c' h' => hd c' (by simp [h'])) (c.toNat :: r)
    have hat : byteAt ((ds ++ [c]).map Char.toNat ++ r) (0 + ds.length) = c.toNat := by
      simp [byteAt, List.getD_eq_getElem?_getD]
    simp only [List.map_append, List.map_cons, List.map_nil, List.append_assoc,
      List.singleton_append] at hrest hat ⊢
    rw [List.length_append, List.length_singleton, digitsAt, hat, hc, if_pos rfl, hrest,
      Nat.ofDigitChars_append, Nat.ofDigitChars_cons, Nat.ofDigitChars_nil]
    simp [Nat.mul_comm]

def digitBytes (w n : Nat) : List Nat := (pad w n).toList.map Char.toNat

theorem length_pad (w n : Nat) : w ≤ (pad w n).length := by
  simp [pad, String.length_append]
  omega

theorem isDigit_of_mem_pad {w n : Nat} {c : Char} (hc : c ∈ (pad w n).toList) : c.isDigit := by
  simp only [pad, String.toList_append, String.toList_ofList, List.mem_append,
    List.mem_replicate] at hc
  rcases hc with ⟨-, rfl⟩ | hc
  · rfl
  · rw [Nat.toString_eq_ofList_toDigits, String.toList_ofList] at hc
    exact Nat.isDigit_of_mem_toDigits (by decide) (by decide) hc

theorem length_toList_pad {w n : Nat} (hw : 0 < w) (h : n < Nat.pow 10 w) :
    (pad w n).toList.length = w := by
  have hlen : (Nat.toDigits 10 n).length ≤ w := (Nat.length_toDigits_le_iff (by decide) hw).2 h
  simp [pad, String.toList_append, Nat.repr_eq_ofList_toDigits]
  omega

theorem ofDigitChars_pad (w n : Nat) : Nat.ofDigitChars 10 (pad w n).toList 0 = n := by
  simp [pad, String.toList_append, Nat.ofDigitChars_append]

theorem bytesOf_pad (w n : Nat) : bytesOf (pad w n) = digitBytes w n := by
  refine bytesOf_ascii fun c hc => ?_
  have := isDigitByte_of_isDigit (isDigit_of_mem_pad hc)
  simp only [isDigitByte, Bool.and_eq_true, decide_eq_true_eq] at this
  omega

theorem isDigitByte_of_mem_digitBytes {w n b : Nat} (hb : b ∈ digitBytes w n) : isDigitByte b := by
  obtain ⟨c, hc, rfl⟩ := List.mem_map.1 hb
  exact isDigitByte_of_isDigit (isDigit_of_mem_pad hc)

section DigitBytes

variable {w n : Nat} (hw : 0 < w) (h : n < Nat.pow 10 w)
include hw h

theorem length_digitBytes : (digitBytes w n).length = w := by
  rw [digitBytes, List.length_map, length_toList_pad hw h]

theorem digitsAt_digitBytes (r : List Nat) : digitsAt (digitBytes w n ++ r) 0 w = some n := by
  have hread := digitsAt_digits (fun c (hc : c ∈ (pad w n).toList) => isDigit_of_mem_pad hc) r
  rw [length_toList_pad hw h, ofDigitChars_pad] at hread
  exact hread

end DigitBytes

/-! ## Reading in parts -/

/-- The time of day and offset `readIso` reads after the date; a date alone has none. -/
def timePart (bs : List Nat) : Option (Clock × Option Int) :=
  if bs.length > separatorAt bs then
    readTime (bs.drop (separatorAt bs + charWidth (byteAt bs (separatorAt bs))))
  else some ({}, none)

/-- A successful reading is a date, a time part and fields in range. -/
theorem readIso_ok {s : String} {st : Stamp} (h : readIso s = .ok st) :
    ∃ y m d c, readDate (bytesOf s) (separatorAt (bytesOf s)) = some (y, m, d) ∧
      timePart (bytesOf s) = some (c, st.offset) ∧ checkFields y m d c = .ok () ∧
      st.civil = ⟨y, m, d, c.hour, c.minute, c.second, c.micro⟩ := by
  have hb : List.map (fun x => x.toNat) s.toUTF8.toList = bytesOf s := rfl
  unfold readIso at h
  simp only [bind, Except.bind, pure, Except.pure, hb] at h
  rcases hd : readDate (bytesOf s) (separatorAt (bytesOf s)) with _ | ⟨y, m, d⟩
  · simp only [hd] at h
    cases h
  · simp only [hd] at h
    unfold timePart
    -- with or without a time part, the reading ends alike: the offset check, then the fields
    by_cases hlen : (bytesOf s).length > separatorAt (bytesOf s)
    · simp only [hlen, ↓reduceIte] at h ⊢
      rcases hr : readTime _ with _ | ⟨c, off⟩ <;> simp only [hr] at h
      · cases h
      · refine ⟨y, m, d, c, rfl, ?_⟩
        rcases hck : checkFields y m d c with e | u <;> rcases off with _ | o <;>
          simp only [hck] at h <;> (try split at h) <;> cases h <;> exact ⟨rfl, rfl, rfl⟩
    · simp only [hlen, ↓reduceIte] at h ⊢
      refine ⟨y, m, d, {}, rfl, ?_⟩
      rcases hck : checkFields y m d {} with e | u <;> simp only [hck] at h
      · cases h
      · cases h
        exact ⟨rfl, rfl, rfl⟩

/-- A date, a time part without offset and fields in range make a reading. -/
theorem readIso_eq_ok {s : String} {y m d : Nat} {c : Clock}
    (hd : readDate (bytesOf s) (separatorAt (bytesOf s)) = some (y, m, d))
    (ht : timePart (bytesOf s) = some (c, none)) (hck : checkFields y m d c = .ok ()) :
    readIso s = .ok { civil := ⟨y, m, d, c.hour, c.minute, c.second, c.micro⟩ } := by
  have hb : List.map (fun x => x.toNat) s.toUTF8.toList = bytesOf s := rfl
  unfold readIso
  simp only [bind, Except.bind, pure, Except.pure, hb, hd]
  unfold timePart at ht
  by_cases hlen : (bytesOf s).length > separatorAt (bytesOf s)
  · simp only [hlen, ↓reduceIte] at ht ⊢
    simp [ht, hck]
  · simp only [hlen, ↓reduceIte, Option.some.injEq, Prod.mk.injEq] at ht ⊢
    rw [← ht.1] at hck ⊢
    simp [hck]

/-! ## A sign past the date gives an offset -/

theorem separatorAt_le (bs : List Nat) : separatorAt bs ≤ 10 := by
  unfold separatorAt
  dsimp only
  split_ifs <;> simp_all
  -- a week date with a short run of digits after the week
  omega

theorem charWidth_le (b : Nat) : charWidth b ≤ 4 := by
  unfold charWidth
  split_ifs <;> omega

theorem readTime_offset {bs : List Nat} {c : Clock} {off : Option Int}
    (h : readTime bs = some (c, off)) (hs : ∃ b ∈ bs, b = 43 ∨ b = 45) : off.isSome := by
  obtain ⟨b, hb, hsign⟩ := hs
  have hsome : (bs.findIdx? fun b => b == 90 || b == 43 || b == 45).isSome := by
    rw [List.findIdx?_isSome, List.any_eq_true]
    exact ⟨b, hb, by rcases hsign with rfl | rfl <;> rfl⟩
  obtain ⟨j, hj⟩ := Option.isSome_iff_exists.1 hsome
  have hlt : j < bs.length := (List.findIdx?_eq_some_iff_findIdx_eq.1 hj).1
  unfold readTime at h
  simp only [hj, Option.getD_some, ge_iff_le, Nat.not_le.2 hlt, if_false] at h
  rcases hf : readFields bs j 3 0 false [] with _ | c'
  · simp [hf] at h
  · simp only [hf, Option.bind_eq_bind, Option.bind_some] at h
    -- past the sign, every return carries an offset
    split at h
    · split at h
      · cases h
      · cases h
        rfl
    · rcases ho : readFields bs bs.length 3 (j + 1) false [] with _ | o <;>
        simp only [ho, Option.bind_none, Option.bind_some] at h
      · cases h
      · split_ifs at h <;> cases h <;> rfl

theorem byteAt_mem {l : List Nat} {j : Nat} (h : byteAt l j ≠ 0) : byteAt l j ∈ l := by
  unfold byteAt at *
  rw [List.getD_eq_getElem?_getD] at *
  rcases hj : l[j]? with _ | b
  · simp [hj] at h
  · simpa [hj] using List.mem_of_getElem? hj

/-- Bytes with a sign at position 14 or later have a time part with an offset, if any. -/
theorem timePart_offset {bs : List Nat} {c : Clock} {off : Option Int}
    (h : timePart bs = some (c, off)) {i : Nat} (hi : 14 ≤ i)
    (hb : byteAt bs i = 43 ∨ byteAt bs i = 45) : off.isSome := by
  -- the date part ends by position 10 and its separator takes at most 4 bytes
  have hstop := separatorAt_le bs
  have hwidth := charWidth_le (byteAt bs (separatorAt bs))
  have hlen : i < bs.length := by
    by_contra hge
    simp [byteAt, List.getElem?_eq_none (Nat.le_of_not_lt hge)] at hb
  unfold timePart at h
  rw [if_pos (by omega)] at h
  have hat : byteAt bs i = byteAt (bs.drop (separatorAt bs + charWidth (byteAt bs (separatorAt bs))))
      (i - (separatorAt bs + charWidth (byteAt bs (separatorAt bs)))) := by
    rw [byteAt_drop, Nat.add_sub_cancel' (by omega)]
  rw [hat] at hb
  exact readTime_offset h ⟨_, byteAt_mem (by omega), hb⟩

/-- A text with a sign at byte 14 or later reads with an offset, if at all. -/
theorem readIso_sign_offset {s : String} {st : Stamp} (h : readIso s = .ok st) {i : Nat}
    (hi : 14 ≤ i) (hb : byteAt (bytesOf s) i = 43 ∨ byteAt (bytesOf s) i = 45) :
    st.offset.isSome := by
  obtain ⟨_, _, _, _, -, ht, -, -⟩ := readIso_ok h
  exact timePart_offset ht hi hb

theorem toString_string (s : String) : toString s = s := rfl

theorem length_civil_iso (c : Civil) : 19 ≤ c.iso.length := by
  have := length_pad 4 c.year
  have := length_pad 2 c.month
  have := length_pad 2 c.day
  have := length_pad 2 c.hour
  have := length_pad 2 c.minute
  have := length_pad 2 c.second
  have hdash : "-".length = 1 := rfl
  have hT : "T".length = 1 := rfl
  have hcolon : ":".length = 1 := rfl
  simp only [Civil.iso, toString_string, String.length_append]
  omega

theorem offsetText_sign (o : Int) : ∃ r, offsetText o = (if o < 0 then "-" else "+") ++ r := by
  simp only [offsetText, toString_string, String.append_assoc]
  exact ⟨_, rfl⟩

theorem readIso_stamp_offset {t st : Stamp} (ht : t.offset.isSome) (h : readIso t.iso = .ok st) :
    st.offset.isSome := by
  obtain ⟨o, ho⟩ := Option.isSome_iff_exists.1 ht
  obtain ⟨r, hr⟩ := offsetText_sign o
  have hsign : bytesOf (if o < 0 then "-" else "+") = [if o < 0 then 45 else 43] := by
    split <;> (rw [bytesOf_eq]; rfl)
  have hbytes : bytesOf t.iso = bytesOf t.civil.iso ++ (if o < 0 then 45 else 43) :: bytesOf r := by
    simp only [Stamp.iso, ho]
    rw [hr, bytesOf_append, bytesOf_append, hsign, List.singleton_append]
  have hlen := length_le_bytesOf t.civil.iso
  have hciv := length_civil_iso t.civil
  refine readIso_sign_offset h (i := (bytesOf t.civil.iso).length) (by omega) ?_
  rw [hbytes]
  split <;> simp [byteAt]

/-! ## A reading in range reads back -/

/-- A reading whose fields `readIso` accepts, with a fraction of at most six digits. -/
structure Civil.Valid (c : Civil) : Prop where
  year_pos : 0 < c.year
  year_lt : c.year < 10000
  month_pos : 0 < c.month
  month_le : c.month ≤ 12
  day_pos : 0 < c.day
  day_le : c.day ≤ monthDays c.year c.month
  hour_lt : c.hour < 24
  minute_lt : c.minute < 60
  second_lt : c.second < 60
  micro_lt : c.micro < 1000000

theorem ne_of_isDigitByte {b : Nat} (h : isDigitByte b) (k : Nat) (hk : k < 48 ∨ 57 < k) : b ≠ k := by
  simp only [isDigitByte, Bool.and_eq_true, decide_eq_true_eq] at h
  omega

theorem isDigitByte_byteAt {w n j : Nat} (hw : 0 < w) (h : n < Nat.pow 10 w) (hj : j < w) :
    isDigitByte (byteAt (digitBytes w n) j) := by
  have hlen : j < (digitBytes w n).length := by rw [length_digitBytes hw h]; exact hj
  rw [byteAt, ← List.getElem_eq_getD (h := hlen)]
  exact isDigitByte_of_mem_digitBytes (List.getElem_mem hlen)

/-- Where `YYYY-MM-DD` puts its fields and dashes. -/
theorem calendar_layout {Y M D : List Nat} (r : List Nat) (hY : Y.length = 4) (hM : M.length = 2)
    (hD : D.length = 2) :
    let bs := Y ++ 45 :: (M ++ 45 :: (D ++ r))
    bs.length = 10 + r.length ∧ byteAt bs 4 = 45 ∧ byteAt bs 5 = byteAt M 0 ∧ byteAt bs 7 = 45 ∧
      digitsAt bs 5 2 = digitsAt (M ++ 45 :: (D ++ r)) 0 2 ∧
      digitsAt bs 8 2 = digitsAt (D ++ r) 0 2 ∧ bs.drop 10 = r := by
  refine ⟨?_, ?_, ?_, ?_, ?_, ?_, ?_⟩
  · simp only [List.length_append, List.length_cons, hY, hM, hD]
    omega
  · simp [hY, byteAt]
  · simp [hY, hM, byteAt, List.getElem?_append_right, List.getElem?_append_left]
  · simp [hY, hM, byteAt, List.getElem?_append_right]
  · rw [← digitsAt_drop]
    simp [List.drop_append, hY, List.drop_eq_nil_of_le]
  · rw [← digitsAt_drop]
    simp [List.drop_append, hY, hM, List.drop_eq_nil_of_le]
  · simp [List.drop_append, hY, hM, hD, List.drop_eq_nil_of_le]

theorem month_opens_not_week {m : Nat} (hm : m < 100) : byteAt (digitBytes 2 m) 0 ≠ 87 :=
  ne_of_isDigitByte (isDigitByte_byteAt (by decide) hm (by decide)) 87 (by decide)

section Calendar

variable {y m d : Nat} (hy : y < 10000) (hm : m < 100) (hd : d < 100) (r : List Nat)
include hy hm hd

theorem separatorAt_calendar :
    separatorAt (digitBytes 4 y ++ 45 :: (digitBytes 2 m ++ 45 :: (digitBytes 2 d ++ r))) = 10 := by
  obtain ⟨hlen, h4, h5, -⟩ := calendar_layout r (length_digitBytes (by decide) hy)
    (length_digitBytes (by decide) hm) (length_digitBytes (by decide) hd)
  unfold separatorAt
  simp only [h4, h5, beq_iff_eq, month_opens_not_week hm, ↓reduceIte]
  rw [if_neg (by omega)]

theorem readDate_calendar (stop : Nat) :
    readDate (digitBytes 4 y ++ 45 :: (digitBytes 2 m ++ 45 :: (digitBytes 2 d ++ r))) stop =
      some (y, m, d) := by
  obtain ⟨-, h4, h5, h7, h5', h8, -⟩ := calendar_layout r (length_digitBytes (by decide) hy)
    (length_digitBytes (by decide) hm) (length_digitBytes (by decide) hd)
  have h0 : digitsAt (digitBytes 4 y ++ 45 :: (digitBytes 2 m ++ 45 :: (digitBytes 2 d ++ r))) 0 4 =
      some y := digitsAt_digitBytes (by decide) hy _
  have hm' : digitsAt (digitBytes 2 m ++ 45 :: (digitBytes 2 d ++ r)) 0 2 = some m :=
    digitsAt_digitBytes (by decide) hm _
  have hd' : digitsAt (digitBytes 2 d ++ r) 0 2 = some d := digitsAt_digitBytes (by decide) hd _
  simp [readDate, h0, h4, h5, h7, h5', h8, hm', hd', month_opens_not_week hm]

end Calendar

/-- A two-digit field and a colon, with more of the time to come. -/
theorem readFields_colon {bs : List Nat} {stop k p v : Nat} {sep : Bool} {vals : List Nat}
    (hv : digitsAt bs p 2 = some v) (hc : byteAt bs (p + 2) = 58) (hp : p + 3 < stop)
    (hsep : vals = [] ∨ sep = true) :
    readFields bs stop (k + 1) p sep vals = readFields bs stop k (p + 3) true (vals ++ [v]) := by
  rcases hsep with rfl | rfl <;> simp [readFields, hv, hc, Nat.not_le.2 hp]

/-- A two-digit field that ends the time. -/
theorem readFields_end {bs : List Nat} {stop k p v : Nat} {sep : Bool} {vals : List Nat}
    (hv : digitsAt bs p 2 = some v) (hp : stop ≤ p + 3) :
    readFields bs stop (k + 1) p sep vals =
      some { readFields.clockOf (vals ++ [v]) with more := byteAt bs (p + 2) != 0 } := by
  simp [readFields, hv, hp]

/-- A two-digit field and a point: the fraction follows. -/
theorem readFields_point {bs : List Nat} {stop k p v : Nat} {sep : Bool} {vals : List Nat}
    (hv : digitsAt bs p 2 = some v) (hc : byteAt bs (p + 2) = 46) (hp : p + 3 < stop) :
    readFields bs stop (k + 1) p sep vals = readFraction bs (p + 3) stop
      (readFields.clockOf (vals ++ [v])) := by
  simp [readFields, hv, hc, Nat.not_le.2 hp]

/-- Six digits of fraction that end the text. -/
theorem readFraction_six {bs : List Nat} {p f : Nat} (c : Clock) (hf : digitsAt bs p 6 = some f)
    (hlen : bs.length = p + 6) :
    readFraction bs p (p + 6) c = some { c with micro := f, more := false } := by
  have hdrop : bs.drop (p + 6) = [] := List.drop_eq_nil_of_le (by omega)
  have hend : byteAt bs (p + 6) = 0 := by
    simp [byteAt, List.getElem?_eq_none (show bs.length ≤ p + 6 by omega)]
  simp [readFraction, hf, hdrop, hend]

/-- Where `HH:MM:SS` puts its fields and colons. -/
theorem clock_layout {H M S : List Nat} (F : List Nat) (hH : H.length = 2) (hM : M.length = 2)
    (hS : S.length = 2) :
    let bs := H ++ 58 :: (M ++ 58 :: (S ++ F))
    bs.length = 8 + F.length ∧ byteAt bs 2 = 58 ∧ byteAt bs 5 = 58 ∧ byteAt bs 8 = byteAt F 0 ∧
      digitsAt bs 3 2 = digitsAt (M ++ 58 :: (S ++ F)) 0 2 ∧
      digitsAt bs 6 2 = digitsAt (S ++ F) 0 2 ∧ digitsAt bs 9 6 = digitsAt (F.drop 1) 0 6 := by
  refine ⟨?_, ?_, ?_, ?_, ?_, ?_, ?_⟩
  · simp only [List.length_append, List.length_cons, hH, hM, hS]
    omega
  · simp [hH, byteAt]
  · simp [hH, hM, byteAt, List.getElem?_append_right]
  · simp [hH, hM, hS, byteAt, List.getElem?_append_right]
  · rw [← digitsAt_drop]
    simp [List.drop_append, hH, List.drop_eq_nil_of_le]
  · rw [← digitsAt_drop]
    simp [List.drop_append, hH, hM, List.drop_eq_nil_of_le]
  · rw [← digitsAt_drop]
    simp [List.drop_append, hH, hM, hS, List.drop_eq_nil_of_le]

/-- The bytes of a fraction as `Civil.iso` writes it: none for zero, else a point and six
digits. -/
def fractionBytes (u : Nat) : List Nat := if u = 0 then [] else 46 :: digitBytes 6 u

/-- `HH:MM:SS`, with its fraction, reads as its fields and no offset. -/
theorem readTime_clock {h mi s u : Nat} (hh : h < 100) (hmi : mi < 100) (hs : s < 100)
    (hu : u < 1000000) :
    readTime (digitBytes 2 h ++ 58 :: (digitBytes 2 mi ++ 58 :: (digitBytes 2 s ++ fractionBytes u))) =
      some ({ hour := h, minute := mi, second := s, micro := u }, none) := by
  obtain ⟨hlen, h2, h5, h8, h3, h6, h9⟩ := clock_layout (fractionBytes u)
    (length_digitBytes (by decide) hh) (length_digitBytes (by decide) hmi)
    (length_digitBytes (by decide) hs)
  have hh' : digitsAt (digitBytes 2 h ++ 58 :: (digitBytes 2 mi ++ 58 ::
      (digitBytes 2 s ++ fractionBytes u))) 0 2 = some h := digitsAt_digitBytes (by decide) hh _
  have hmi' : digitsAt (digitBytes 2 mi ++ 58 :: (digitBytes 2 s ++ fractionBytes u)) 0 2 = some mi :=
    digitsAt_digitBytes (by decide) hmi _
  have hs' : digitsAt (digitBytes 2 s ++ fractionBytes u) 0 2 = some s :=
    digitsAt_digitBytes (by decide) hs _
  -- no byte of the time is `Z` or a sign, so the time runs to the end
  have hnone : (digitBytes 2 h ++ 58 :: (digitBytes 2 mi ++ 58 :: (digitBytes 2 s ++ fractionBytes u))).findIdx?
      (fun b => b == 90 || b == 43 || b == 45) = none := by
    have hdig : ∀ {w n : Nat}, 0 < w → n < Nat.pow 10 w → ∀ b ∈ digitBytes w n,
        (b == 90 || b == 43 || b == 45) = false := by
      intro w n hw hn b hb
      have := isDigitByte_of_mem_digitBytes hb
      simp only [isDigitByte, Bool.and_eq_true, decide_eq_true_eq] at this
      simp only [Bool.or_eq_false_iff, beq_eq_false_iff_ne]
      omega
    rw [List.findIdx?_eq_none_iff]
    intro b hb
    simp only [fractionBytes, List.mem_append, List.mem_cons] at hb
    rcases hb with hb | rfl | hb | rfl | hb | hb
    · exact hdig (by decide) hh b hb
    · rfl
    · exact hdig (by decide) hmi b hb
    · rfl
    · exact hdig (by decide) hs b hb
    · split at hb
      · exact (List.not_mem_nil hb).elim
      · rcases List.mem_cons.1 hb with rfl | hb
        · rfl
        · exact hdig (by decide) hu b hb
  generalize (digitBytes 2 h ++ 58 :: (digitBytes 2 mi ++ 58 :: (digitBytes 2 s ++ fractionBytes u)))
    = T at *
  unfold readTime
  dsimp only
  have hmax : max T.length 1 = T.length := by omega
  rw [hnone, Option.getD_none, hmax, readFields_colon hh' h2 (by omega) (Or.inl rfl),
    readFields_colon (h3.trans hmi') h5 (by omega) (Or.inr rfl)]
  by_cases hu0 : u = 0
  · -- no fraction: the seconds end the text
    have hF : fractionBytes u = [] := if_pos hu0
    rw [hF, List.length_nil] at hlen
    rw [hF] at h8
    rw [readFields_end (h6.trans hs') (show T.length ≤ 6 + 3 by omega), h8]
    simp [byteAt, hu0, readFields.clockOf]
  · have hF : fractionBytes u = 46 :: digitBytes 6 u := if_neg hu0
    have hu' : digitsAt T 9 6 = some u := by
      rw [h9, hF, List.drop_one, List.tail_cons, ← List.append_nil (digitBytes 6 u)]
      exact digitsAt_digitBytes (by decide) hu []
    rw [hF] at hlen h8
    have hlen' : T.length = 9 + 6 := by
      rw [hlen, List.length_cons, length_digitBytes (by decide) hu]
    rw [readFields_point (h6.trans hs') (by rw [h8]; rfl) (show 6 + 3 < T.length by omega), hlen',
      readFraction_six _ hu' hlen']
    simp [readFields.clockOf]

theorem monthDays_le (y m : Nat) : monthDays y m ≤ 31 := by
  unfold monthDays
  split <;> (try split) <;> omega

theorem bytesOf_civil_iso (c : Civil) :
    bytesOf c.iso = digitBytes 4 c.year ++ 45 :: (digitBytes 2 c.month ++ 45 ::
      (digitBytes 2 c.day ++ 84 :: (digitBytes 2 c.hour ++ 58 :: (digitBytes 2 c.minute ++ 58 ::
        (digitBytes 2 c.second ++ fractionBytes c.micro))))) := by
  have hdash : bytesOf "-" = [45] := by rw [bytesOf_eq]; rfl
  have hT : bytesOf "T" = [84] := by rw [bytesOf_eq]; rfl
  have hcolon : bytesOf ":" = [58] := by rw [bytesOf_eq]; rfl
  have hfrac : bytesOf (if c.micro == 0 then "" else "." ++ pad 6 c.micro) =
      fractionBytes c.micro := by
    by_cases h0 : c.micro = 0
    · simp only [h0, beq_self_eq_true, ↓reduceIte, fractionBytes]
      rw [bytesOf_eq]
      rfl
    · have hpoint : bytesOf "." = [46] := by rw [bytesOf_eq]; rfl
      simp [h0, fractionBytes, hpoint, bytesOf_pad]
  simp only [Civil.iso, toString_string, bytesOf_append, bytesOf_pad, hdash, hT, hcolon, hfrac,
    List.append_assoc, List.cons_append, List.nil_append]

theorem readIso_civil_iso {c : Civil} (hc : c.Valid) : readIso c.iso = .ok { civil := c } := by
  have hy : c.year < 10000 := hc.year_lt
  have hm : c.month < 100 := by have := hc.month_le; omega
  have hd : c.day < 100 := by have := hc.day_le; have := monthDays_le c.year c.month; omega
  have hlay := calendar_layout (84 :: (digitBytes 2 c.hour ++ 58 :: (digitBytes 2 c.minute ++ 58 ::
      (digitBytes 2 c.second ++ fractionBytes c.micro))))
    (length_digitBytes (by decide) hy) (length_digitBytes (by decide) hm)
    (length_digitBytes (by decide) hd)
  obtain ⟨hlen, -, -, -, -, -, hdrop⟩ := hlay
  have hsep := separatorAt_calendar hy hm hd (84 :: (digitBytes 2 c.hour ++ 58 ::
      (digitBytes 2 c.minute ++ 58 :: (digitBytes 2 c.second ++ fractionBytes c.micro))))
  have hdate := readDate_calendar hy hm hd (84 :: (digitBytes 2 c.hour ++ 58 ::
      (digitBytes 2 c.minute ++ 58 :: (digitBytes 2 c.second ++ fractionBytes c.micro)))) 10
  rw [← bytesOf_civil_iso] at hlen hdrop hsep hdate
  have htime : timePart (bytesOf c.iso) =
      some ({ hour := c.hour, minute := c.minute, second := c.second, micro := c.micro }, none) := by
    have h10 : byteAt (bytesOf c.iso) 10 = 84 := by
      rw [← Nat.add_zero 10, ← byteAt_drop, hdrop]
      rfl
    unfold timePart
    rw [if_pos (by rw [hlen, hsep]; simp), hsep, h10, show charWidth 84 = 1 from rfl,
      ← List.drop_drop, hdrop, List.drop_one, List.tail_cons]
    exact readTime_clock (by have := hc.hour_lt; omega) (by have := hc.minute_lt; omega)
      (by have := hc.second_lt; omega) hc.micro_lt
  have hck : checkFields c.year c.month c.day
      { hour := c.hour, minute := c.minute, second := c.second, micro := c.micro } = .ok () := by
    have := hc.year_pos
    have := hc.year_lt
    have := hc.month_pos
    have := hc.month_le
    have := hc.day_pos
    have := hc.day_le
    have := hc.hour_lt
    have := hc.minute_lt
    have := hc.second_lt
    simp only [checkFields]
    rw [if_neg (by simp; omega), if_neg (by simp; omega), if_neg (by simp; omega),
      if_neg (by simp; omega), if_neg (by simp; omega), if_neg (by simp; omega)]
  rw [readIso_eq_ok (by rw [hsep]; exact hdate) htime hck]

end Taskflow.Time