import CharTally.Text.Utf8

/-!
# UTF-8 read back

The bytes of a character take the decoder through one sequence and back to where
a sequence may begin (`decodeFrom_encodeChar`); the sequence has one to four
bytes, and each of these widths is a case of its own. Therefore a whole text is
decoded to itself, whatever follows it (`decodeFrom_encode`, `decode_encode`), and
whatever could be decoded in front of it (`decode_append_encode`). The other way
round, no half of a surrogate pair comes out of a decoder (`isWhole_of_decode`):
the range of the byte behind `0xED` keeps every sequence away from the halves
(`Pending.Avoids`). Whole texts can be encoded, and no others
(`unencodable?_eq_none_iff_isWhole`).
-/

namespace CharTally.Utf8

theorem toNat_ofNat_of_lt {n : Nat} (small : n < 0x100) : (UInt8.ofNat n).toNat = n :=
  UInt8.toNat_ofNat_of_lt' small

/-- The code of a character is no surrogate and lies within the last plane. -/
theorem code_valid {c : CodePoint} (whole : c.isHalf = false) :
    c.toNat < 0xD800 ∨ 0xDFFF < c.toNat ∧ c.toNat < 0x110000 := by
  have bound := c.toNat_lt
  cases c with
  | half offset => cases whole
  | scalar c =>
    have outside := CodePoint.not_half_toNat c
    rw [CodePoint.firstHalf] at outside
    rw [CodePoint.toNat_scalar] at bound ⊢
    omega

/-- A byte that continues a sequence, which is not the last one. -/
theorem decodeFrom_continue (offset : Nat) (done : Text) (pending : Pending) (n : Nat)
    (rest : List UInt8) (low : pending.low ≤ 0x80 + n) (high : 0x80 + n ≤ pending.high)
    (small : n < 0x40) (more : pending.needed ≠ 1) :
    decodeFrom offset done (some pending) (UInt8.ofNat (0x80 + n) :: rest) =
      decodeFrom (offset + 1) done
        (some { pending with
          width := pending.width + 1, needed := pending.needed - 1, low := 0x80, high := 0xBF,
          code := pending.code * 0x40 + n }) rest := by
  have byte : (UInt8.ofNat (0x80 + n)).toNat = 0x80 + n := toNat_ofNat_of_lt (by omega)
  rw [decodeFrom]
  simp only [byte, low, high, more, and_self, if_true, if_false, Nat.add_sub_cancel_left]

/-- The byte that ends a sequence. -/
theorem decodeFrom_last (offset : Nat) (done : Text) (pending : Pending) (n : Nat)
    (rest : List UInt8) (low : pending.low ≤ 0x80 + n) (high : 0x80 + n ≤ pending.high)
    (small : n < 0x40) (last : pending.needed = 1) :
    decodeFrom offset done (some pending) (UInt8.ofNat (0x80 + n) :: rest) =
      decodeFrom (offset + 1) (CodePoint.ofNat (pending.code * 0x40 + n) :: done) none rest := by
  have byte : (UInt8.ofNat (0x80 + n)).toNat = 0x80 + n := toNat_ofNat_of_lt (by omega)
  rw [decodeFrom]
  simp only [byte, low, high, last, and_self, if_true, Nat.add_sub_cancel_left]

/-- The byte that begins a sequence of several. -/
theorem decodeFrom_lead (offset : Nat) (done : Text) (rest : List UInt8) {byte : Nat}
    {needed low high code : Nat} (small : byte < 0x100) (large : 0x80 ≤ byte)
    (lead : lead? byte = some (needed, low, high, code)) :
    decodeFrom offset done none (UInt8.ofNat byte :: rest) =
      decodeFrom (offset + 1) done
        (some ⟨offset, UInt8.ofNat byte, 1, needed, low, high, code⟩) rest := by
  have whole : (UInt8.ofNat byte).toNat = byte := toNat_ofNat_of_lt small
  rw [decodeFrom]
  simp only [whole, lead]
  rw [if_neg (by omega)]

/-- What a first byte of three announces. The range of the next byte leaves out overlong forms and
surrogates. -/
theorem lead?_of_three {code : Nat} (valid : code < 0xD800 ∨ 0xDFFF < code) (large : 0x800 ≤ code)
    (small : code < 0x10000) :
    ∃ low high, lead? (0xE0 + code / 0x1000) = some (2, low, high, code / 0x1000) ∧
      low ≤ 0x80 + code / 0x40 % 0x40 ∧ 0x80 + code / 0x40 % 0x40 ≤ high := by
  unfold lead?
  rw [if_neg (by omega)]
  by_cases overlong : code / 0x1000 = 0
  · rw [if_pos (by omega), overlong]
    exact ⟨0xA0, 0xBF, rfl, by omega, by omega⟩
  rw [if_neg (by omega)]
  by_cases surrogate : code / 0x1000 = 0xD
  · rw [if_pos (by omega), surrogate]
    exact ⟨0x80, 0x9F, rfl, by omega, by omega⟩
  rw [if_neg (by omega), if_pos (by omega), Nat.add_sub_cancel_left]
  exact ⟨0x80, 0xBF, rfl, by omega, by omega⟩

/-- What a first byte of four announces. The range of the next byte leaves out overlong forms and
what lies past the last plane. -/
theorem lead?_of_four {code : Nat} (large : 0x10000 ≤ code) (small : code < 0x110000) :
    ∃ low high, lead? (0xF0 + code / 0x40000) = some (3, low, high, code / 0x40000) ∧
      low ≤ 0x80 + code / 0x1000 % 0x40 ∧ 0x80 + code / 0x1000 % 0x40 ≤ high := by
  unfold lead?
  rw [if_neg (by omega), if_neg (by omega), if_neg (by omega), if_neg (by omega)]
  by_cases overlong : code / 0x40000 = 0
  · rw [if_pos (by omega), overlong]
    exact ⟨0x90, 0xBF, rfl, by omega, by omega⟩
  rw [if_neg (by omega)]
  by_cases past : code / 0x40000 = 4
  · rw [if_pos (by omega), past]
    exact ⟨0x80, 0x8F, rfl, by omega, by omega⟩
  rw [if_neg (by omega), if_pos (by omega), Nat.add_sub_cancel_left]
  exact ⟨0x80, 0xBF, rfl, by omega, by omega⟩

/-- The bytes of a character are read as the character. -/
theorem decodeFrom_encodeChar (offset : Nat) (done : Text) {c : CodePoint} (rest : List UInt8)
    (whole : c.isHalf = false) :
    decodeFrom offset done none (encodeChar c ++ rest) =
      decodeFrom (offset + (encodeChar c).length) (c :: done) none rest := by
  have valid := code_valid whole
  have back : CodePoint.ofNat c.toNat = c := CodePoint.ofNat_toNat c
  unfold encodeChar
  dsimp only
  by_cases one : c.toNat < 0x80
  · have byte : (UInt8.ofNat c.toNat).toNat = c.toNat := toNat_ofNat_of_lt (by omega)
    rw [if_pos one, List.singleton_append, decodeFrom]
    simp only [byte, one, if_true, back]
    rfl
  rw [if_neg one]
  by_cases two : c.toNat < 0x800
  · have lead : lead? (0xC0 + c.toNat / 0x40) = some (1, 0x80, 0xBF, c.toNat / 0x40) := by
      rw [lead?, if_pos (by omega), Nat.add_sub_cancel_left]
    have parts : c.toNat / 0x40 * 0x40 + c.toNat % 0x40 = c.toNat := by omega
    rw [if_pos two, List.cons_append, List.singleton_append,
      decodeFrom_lead offset done _ (by omega) (by omega) lead,
      decodeFrom_last _ _ _ _ _ (by dsimp only; omega) (by dsimp only; omega) (by omega) rfl]
    dsimp only
    rw [parts, back]
    rfl
  rw [if_neg two]
  by_cases three : c.toNat < 0x10000
  · obtain ⟨low, high, lead, fromLow, toHigh⟩ := lead?_of_three (by omega) (by omega) three
    have parts : (c.toNat / 0x1000 * 0x40 + c.toNat / 0x40 % 0x40) * 0x40 + c.toNat % 0x40 =
        c.toNat := by omega
    rw [if_pos three, List.cons_append, List.cons_append, List.singleton_append,
      decodeFrom_lead offset done _ (by omega) (by omega) lead,
      decodeFrom_continue _ _ _ _ _ fromLow toHigh (by omega) (by simp),
      decodeFrom_last _ _ _ _ _ (by dsimp only; omega) (by dsimp only; omega) (by omega) rfl]
    dsimp only
    rw [parts, back]
    rfl
  · obtain ⟨low, high, lead, fromLow, toHigh⟩ :=
      lead?_of_four (Nat.le_of_not_lt three) (show c.toNat < 0x110000 by omega)
    have parts : ((c.toNat / 0x40000 * 0x40 + c.toNat / 0x1000 % 0x40) * 0x40 +
        c.toNat / 0x40 % 0x40) * 0x40 + c.toNat % 0x40 = c.toNat := by omega
    rw [if_neg three, List.cons_append, List.cons_append, List.cons_append, List.singleton_append,
      decodeFrom_lead offset done _ (by omega) (by omega) lead,
      decodeFrom_continue _ _ _ _ _ fromLow toHigh (by omega) (by simp),
      decodeFrom_continue _ _ _ _ _ (by dsimp only; omega) (by dsimp only; omega) (by omega)
        (by simp),
      decodeFrom_last _ _ _ _ _ (by dsimp only; omega) (by dsimp only; omega) (by omega) rfl]
    dsimp only
    rw [parts, back]
    rfl

theorem decodeFrom_encode (offset : Nat) (done : Text) {t : Text} (rest : List UInt8)
    (whole : t.isWhole = true) :
    decodeFrom offset done none (encode t ++ rest) =
      decodeFrom (offset + (encode t).length) (t.reverse ++ done) none rest := by
  induction t generalizing offset done with
  | nil => rfl
  | cons c more ih =>
    rw [Text.isWhole_cons, Bool.and_eq_true, Bool.not_eq_true'] at whole
    rw [encode, List.flatMap_cons, List.append_assoc, decodeFrom_encodeChar _ _ _ whole.1]
    have others := ih (offset + (encodeChar c).length) (c :: done) whole.2
    rw [encode] at others
    rw [others, List.length_append, Nat.add_assoc, List.reverse_cons, List.append_assoc,
      List.singleton_append]

/-- A whole text is read back from its bytes. -/
theorem decode_encode {t : Text} (whole : t.isWhole = true) : decode (encode t) = .ok t := by
  have read := decodeFrom_encode 0 [] [] whole
  rw [List.append_nil, List.append_nil] at read
  rw [decode, read, decodeFrom, List.reverse_reverse]

theorem encode_append (s t : Text) : encode (s ++ t) = encode s ++ encode t :=
  List.flatMap_append

/-- Behind bytes that are decoded, decoding begins anew. -/
theorem decodeFrom_append {offset : Nat} {done t : Text} {pending : Option Pending}
    {bytes : List UInt8} (decoded : decodeFrom offset done pending bytes = .ok t)
    (more : List UInt8) :
    decodeFrom offset done pending (bytes ++ more) =
      decodeFrom (offset + bytes.length) t.reverse none more := by
  have further (offset : Nat) (byte : UInt8) (rest : List UInt8) :
      offset + (byte :: rest).length = offset + 1 + rest.length := by
    rw [List.length_cons]
    omega
  fun_induction decodeFrom offset done pending bytes
  case case1 offset done =>
    cases decoded
    rw [List.reverse_reverse]
    rfl
  case case3 ascii ih =>
    rw [further, ← ih decoded, List.cons_append, decodeFrom, if_pos ascii]
  case case5 beyond _ _ _ _ lead ih =>
    rw [further, ← ih decoded, List.cons_append, decodeFrom, if_neg beyond, lead]
  case case6 within _ last ih =>
    rw [further, ← ih decoded, List.cons_append, decodeFrom, if_pos within, if_pos last]
  case case7 within _ goesOn ih =>
    rw [further, ← ih decoded, List.cons_append, decodeFrom, if_pos within, if_neg goesOn]
  all_goals cases decoded

/-- A text that is added to bytes that are decoded is decoded behind them. -/
theorem decode_append_encode {bytes : List UInt8} {s t : Text} (decoded : decode bytes = .ok s)
    (whole : t.isWhole = true) : decode (bytes ++ encode t) = .ok (s ++ t) := by
  have added := decodeFrom_encode (0 + bytes.length) s.reverse [] whole
  rw [List.append_nil] at added
  rw [decode, decodeFrom_append decoded, added, decodeFrom, List.reverse_append,
    List.reverse_reverse, List.reverse_reverse]

/-! ## No halves -/

/-- So many bytes before the end of a sequence, its code leads past the halves. -/
def LeadsPast (needed code : Nat) : Prop :=
  needed = 0 ∧ (code < 0xD800 ∨ 0xDFFF < code) ∨ needed = 1 ∧ (code < 0x360 ∨ 0x37F < code) ∨
    needed = 2 ∧ code ≠ 0xD

/-- Whatever comes next, an unfinished sequence avoids the halves. -/
def Pending.Avoids (pending : Pending) : Prop :=
  pending.needed ≠ 0 ∧ ∀ byte, pending.low ≤ byte → byte ≤ pending.high →
    LeadsPast (pending.needed - 1) (pending.code * 0x40 + (byte - 0x80))

theorem avoids_of_lead? {byte needed low high code start width : Nat} {first : UInt8}
    (lead : lead? byte = some (needed, low, high, code)) :
    Pending.Avoids ⟨start, first, width, needed, low, high, code⟩ := by
  unfold lead? at lead
  rw [Pending.Avoids]
  dsimp only
  have past : needed ≠ 0 ∧ ∀ next, low ≤ next → next ≤ high →
      LeadsPast (needed - 1) (code * 0x40 + (next - 0x80)) := by
    unfold LeadsPast
    iterate 7
      split at lead
      · cases lead
        refine ⟨by decide, fun next _ _ => ?_⟩
        omega
    cases lead
  exact past

theorem Pending.Avoids.next {pending : Pending} (avoids : pending.Avoids) {byte : Nat}
    (above : pending.low ≤ byte) (below : byte ≤ pending.high) (goesOn : pending.needed ≠ 1)
    (width : Nat) :
    Pending.Avoids { pending with
      width, needed := pending.needed - 1, low := 0x80, high := 0xBF,
      code := pending.code * 0x40 + (byte - 0x80) } := by
  have leads := avoids.2 byte above below
  have some_ := avoids.1
  rw [LeadsPast] at leads
  refine ⟨by dsimp only; omega, fun more _ _ => ?_⟩
  rw [LeadsPast]
  dsimp only at *
  omega

theorem not_isHalf_ofNat {code : Nat} (past : LeadsPast 0 code) :
    (CodePoint.ofNat code).isHalf = false := by
  have outside : ¬ (CodePoint.firstHalf ≤ code ∧ code - CodePoint.firstHalf < 0x800) := by
    rw [LeadsPast] at past
    rw [CodePoint.firstHalf]
    omega
  rw [CodePoint.ofNat, dif_neg outside]
  rfl

theorem isWhole_of_decodeFrom {offset : Nat} {done t : Text} {pending : Option Pending}
    {bytes : List UInt8} (whole : done.isWhole = true) (avoids : ∀ p ∈ pending, p.Avoids)
    (decoded : decodeFrom offset done pending bytes = .ok t) : t.isWhole = true := by
  have none_ : ∀ p ∈ (none : Option Pending), p.Avoids := by simp
  fun_induction decodeFrom offset done pending bytes
  case case1 =>
    cases decoded
    rw [Text.isWhole, List.all_reverse]
    exact whole
  case case3 b ascii ih =>
    refine ih ?_ none_ decoded
    rw [Text.isWhole_cons, not_isHalf_ofNat (Or.inl ⟨rfl, by omega⟩), whole]
    rfl
  case case5 lead ih =>
    exact ih whole (fun _ same => Option.some.inj same ▸ avoids_of_lead? lead) decoded
  case case6 p _ _ b within code last ih =>
    have leads := (avoids p rfl).2 b within.1 within.2
    rw [last] at leads
    refine ih ?_ none_ decoded
    rw [Text.isWhole_cons, not_isHalf_ofNat leads, whole]
    rfl
  case case7 p _ _ b within code goesOn ih =>
    exact ih whole
      (fun _ same => Option.some.inj same ▸ (avoids p rfl).next within.1 within.2 goesOn _) decoded
  all_goals cases decoded

/-- What is decoded is whole. -/
theorem isWhole_of_decode {bytes : List UInt8} {t : Text} (decoded : decode bytes = .ok t) :
    t.isWhole = true := by
  rw [decode] at decoded
  exact isWhole_of_decodeFrom rfl (by simp) decoded

/-! ## Texts that can be encoded -/

theorem unencodableFrom_eq_none {spared : CodePoint → Bool} {offset : Nat} {t : Text} :
    unencodableFrom spared offset t = none ↔ ∀ c ∈ t, c.isHalf = true → spared c = true := by
  induction t generalizing offset with
  | nil => exact ⟨fun _ _ member => (List.not_mem_nil member).elim, fun _ => rfl⟩
  | cons c rest ih =>
    rw [unencodableFrom]
    split
    case isTrue refused =>
      rw [Bool.and_eq_true, Bool.not_eq_true'] at refused
      refine ⟨nofun, fun spares => ?_⟩
      rw [spares c List.mem_cons_self refused.1] at refused
      cases refused.2
    case isFalse passes =>
      rw [ih, List.forall_mem_cons]
      refine (and_iff_right fun isHalf => ?_).symm
      rw [isHalf, Bool.true_and, Bool.not_eq_true', Bool.not_eq_false] at passes
      exact passes

theorem unencodable?_eq_none {spared : CodePoint → Bool} {t : Text} :
    unencodable? t spared = none ↔ ∀ c ∈ t, c.isHalf = true → spared c = true :=
  unencodableFrom_eq_none

/-- Whole texts, and only these, can be encoded. -/
theorem unencodable?_eq_none_iff_isWhole {t : Text} : unencodable? t = none ↔ t.isWhole = true := by
  rw [unencodable?_eq_none, Text.isWhole, List.all_eq_true]
  refine forall_congr' fun c => imp_congr_right fun _ => ?_
  cases c.isHalf <;> simp

end CharTally.Utf8
