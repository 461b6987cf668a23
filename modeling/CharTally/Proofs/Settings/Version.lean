import CharTally.Proofs.Json.Overlong
import CharTally.Proofs.Settings
import CharTally.Proofs.Text.Utf8
import Mathlib.Data.Rat.Floor

/-!
# The gate for versions

A version is converted to an integer before it is compared (`versionOf`), and converting drops the
fraction of a number. So the gate is a question of where the number that a version stands for
(`number?`) lies: below one, from one on and below the version after the supported one, or beyond.
`Gated` says this for a document in which nothing else is wrong; `Lawful` is what is asked of the
gate, and the versions that slip through it, or break it, are listed by `Slips`.
-/

namespace CharTally

/-! ## Numbers of the format -/

namespace Binary64

variable {negative : Bool} {mantissa : Nat} {exponent : Int}

/-- The value of a finite number. -/
def rational (negative : Bool) (mantissa : Nat) (exponent : Int) : ℚ :=
  (if negative then -1 else 1) * (mantissa * 2 ^ exponent)

/-- Truncation rounds the magnitude down. -/
theorem truncate_eq (negative : Bool) (mantissa : Nat) (exponent : Int) :
    truncate negative mantissa exponent =
      (if negative then -1 else 1) * ⌊(mantissa : ℚ) * 2 ^ exponent⌋ := by
  rw [← ratio_eq, truncate, Rat.floor_natCast_div_natCast]
  cases negative <;> simp

/-- From one on, truncation rounds down; below one, it leaves nothing that is positive. -/
theorem truncate_rational (negative : Bool) (mantissa : Nat) (exponent : Int) :
    (1 ≤ rational negative mantissa exponent →
        truncate negative mantissa exponent = ⌊rational negative mantissa exponent⌋) ∧
      (rational negative mantissa exponent < 1 → truncate negative mantissa exponent ≤ 0) := by
  have magnitude : (0 : ℚ) ≤ mantissa * 2 ^ exponent :=
    mul_nonneg (Nat.cast_nonneg _) (zpow_nonneg (by norm_num) _)
  rw [truncate_eq, rational]
  generalize (mantissa : ℚ) * 2 ^ exponent = size at magnitude
  have whole : 0 ≤ ⌊size⌋ := Int.floor_nonneg.mpr magnitude
  cases negative with
  | false =>
    simp only [Bool.false_eq_true, if_false, one_mul, true_and, imp_true_iff]
    intro small
    exact Int.lt_add_one_iff.mp (Int.floor_lt.mpr (by simpa using small))
  | true =>
    simp only [if_true, neg_one_mul]
    constructor
    · intro large
      linarith
    · intro _
      omega

end Binary64

namespace Settings

variable {source : Source} {wanted : Option Text} {overrides version : Json} {number : ℚ}
  {raw : List (Text × Json)} {outcome : Except Failure Document}

/-! ## The number of a version -/

/-- The number that a version stands for. A truth value is one or zero, and a text is the integer
that it is read as. -/
def number? : Json → Option ℚ
  | .bool value => some (if value then 1 else 0)
  | .integer value => some value
  | .real (.finite negative mantissa exponent) =>
    some (Binary64.rational negative mantissa exponent)
  | .text value => (Numeral.readInteger? value).map Int.cast
  | _ => none

/-- A number is converted to the integer below it, if that is positive. -/
theorem versionOf_of_number (source : Source) (isNumber : number? version = some number) :
    ∃ found, versionOf source version = .ok found ∧ (1 ≤ number → found = ⌊number⌋) ∧
      (number < 1 → found ≤ 0) := by
  have integer (found : Int) : (1 ≤ (found : ℚ) → found = ⌊(found : ℚ)⌋) ∧
      ((found : ℚ) < 1 → found ≤ 0) := by
    refine ⟨fun _ => (Int.floor_intCast found).symm, fun small => ?_⟩
    have below : found < 1 := by exact_mod_cast small
    omega
  cases version with
  | bool value =>
    cases isNumber
    refine ⟨_, rfl, ?_⟩
    cases value with
    | false => simp
    | true => simp
  | integer value =>
    cases isNumber
    exact ⟨value, rfl, integer value⟩
  | real value =>
    cases value with
    | finite negative mantissa exponent =>
      cases isNumber
      exact ⟨_, rfl, Binary64.truncate_rational negative mantissa exponent⟩
    | infinite negative => cases isNumber
    | nan => cases isNumber
  | text value =>
    obtain ⟨found, reads, rfl⟩ := Option.map_eq_some_iff.mp isNumber
    exact ⟨found, by simp only [versionOf, reads], integer found⟩
  | null => cases isNumber
  | array items => cases isNumber
  | object members => cases isNumber

/-- What stands for no number is refused, but for the infinities. -/
theorem versionOf_of_none (source : Source) (noNumber : number? version = none) :
    (∃ negative, version = .real (.infinite negative)) ∧
        versionOf source version = .error (.crash .infiniteVersion) ∨
      (∀ negative, version ≠ .real (.infinite negative)) ∧
        versionOf source version = refuse source .versionNotInteger := by
  by_cases isInfinite : ∃ negative, version = .real (.infinite negative)
  · obtain ⟨negative, rfl⟩ := isInfinite
    exact Or.inl ⟨⟨negative, rfl⟩, rfl⟩
  refine Or.inr ⟨fun negative same => isInfinite ⟨negative, same⟩, ?_⟩
  cases version with
  | real value =>
    cases value with
    | finite negative mantissa exponent => cases noNumber
    | infinite negative => exact absurd ⟨negative, rfl⟩ isInfinite
    | nan => rfl
  | text value =>
    have unread := Option.map_eq_none_iff.mp noNumber
    simp only [versionOf, unread]
  | bool value => cases noNumber
  | integer value => cases noNumber
  | null => rfl
  | array items => rfl
  | object members => rfl

/-! ## The gate -/

/-- What the gate makes of the version of a document in which nothing else is wrong. -/
inductive Gated (source : Source) (version : Json) : Except Failure Document → Prop
  | admitted {number : ℚ} {document : Document} (isNumber : number? version = some number)
      (positive : 1 ≤ number) (supported : number < supportedVersion + 1)
      (rounded : document.version = ⌊number⌋) : Gated source version (.ok document)
  | notPositive {number : ℚ} (isNumber : number? version = some number) (small : number < 1) :
      Gated source version (refuse source .versionNotPositive)
  | tooNew {number : ℚ} (isNumber : number? version = some number)
      (large : supportedVersion + 1 ≤ number) :
      Gated source version (refuse source (.versionTooNew ⌊number⌋))
  | notInteger (noNumber : number? version = none)
      (bounded : ∀ negative, version ≠ .real (.infinite negative)) :
      Gated source version (refuse source .versionNotInteger)
  | infinite {negative : Bool} (isInfinite : version = .real (.infinite negative)) :
      Gated source version (.error (.crash .infiniteVersion))

/-- The version of a document decides, and the rest of it is as in version one. -/
theorem ofJson_eq_versioned (source : Source) (wanted : Option Text) (overrides : Json)
    (raw : List (Text × Json)) :
    ofJson source wanted overrides (.object raw) = do
      let version ← checkVersion source ((Json.find? "version" raw).getD .null)
      let document ← ofJson source wanted overrides
        (.object (Json.put "version" (.integer 1) raw))
      return { document with version := version } := by
  have isOne : checkVersion source ((Json.find? "version"
      (Json.put "version" (.integer 1) raw)).getD .null) = pure 1 := by
    rw [Json.find?_put, if_pos rfl]
    rfl
  have others {name : Text} (other : name ≠ "version") :
      Json.find? name (Json.put "version" (.integer 1) raw) = Json.find? name raw := by
    rw [Json.find?_put, if_neg other]
  rw [ofJson, ofJson, isOne, others (by decide), others (by decide)]
  simp only [pure_bind]
  apply bind_congr
  intro version
  -- What follows the version does not ask for it, so it is carried to the end.
  cases membersOf? (Json.find? "global" raw) with
  | none => rfl
  | some general =>
    rcases membersOf? (Json.find? "profiles" raw) with _ | _ | ⟨first, more⟩
    · simp only [bind_assoc]
      rfl
    · simp only [bind_assoc]
      rfl
    · simp only [bind_assoc, pure_bind]

/-- The gate, in front of a document in which nothing else is wrong. -/
theorem gated_of_sound {document : Document}
    (sound : ofJson source wanted overrides (.object (Json.put "version" (.integer 1) raw)) =
      .ok document) :
    Gated source ((Json.find? "version" raw).getD .null)
      (ofJson source wanted overrides (.object raw)) := by
  rw [ofJson_eq_versioned, sound]
  cases isNumber : number? ((Json.find? "version" raw).getD .null) with
  | some number =>
    obtain ⟨found, converts, large, small⟩ := versionOf_of_number source isNumber
    rw [checkVersion, converts]
    rcases lt_or_ge number 1 with below | positive
    · have refused : found ≤ 0 := small below
      change Gated _ _ ((if found ≤ 0 then _ else _) >>= _)
      rw [if_pos refused]
      exact .notPositive isNumber below
    · have rounded : found = ⌊number⌋ := large positive
      have passes : ¬ found ≤ 0 := by
        have one : 1 ≤ ⌊number⌋ := Int.le_floor.mpr (by exact_mod_cast positive)
        omega
      change Gated _ _ ((if found ≤ 0 then _ else if (supportedVersion : Int) < found then _
        else _) >>= _)
      rw [if_neg passes, rounded]
      rcases lt_or_ge number (supportedVersion + 1) with supported | beyond
      · have old : ¬ (supportedVersion : Int) < ⌊number⌋ := by
          have next : ⌊number⌋ < (supportedVersion : Int) + 1 :=
            Int.floor_lt.mpr (by exact_mod_cast supported)
          omega
        rw [if_neg old]
        exact .admitted isNumber positive supported rfl
      · have new : (supportedVersion : Int) < ⌊number⌋ := by
          have next : (supportedVersion : Int) + 1 ≤ ⌊number⌋ :=
            Int.le_floor.mpr (by exact_mod_cast beyond)
          omega
        rw [if_pos new]
        exact .tooNew isNumber beyond
  | none =>
    rcases versionOf_of_none source isNumber with
      ⟨⟨negative, isInfinite⟩, crashes⟩ | ⟨bounded, refuses⟩
    · rw [checkVersion, crashes]
      exact .infinite isInfinite
    · rw [checkVersion, refuses]
      exact .notInteger isNumber bounded

/-- What is asked of the gate: a document is loaded with a version that is numerically the given
one, positive and supported; or the version is no such integer, and the document is refused. -/
def Lawful (version : Json) (outcome : Except Failure Document) : Prop :=
  (∃ document : Document, outcome = .ok document ∧
      number? version = some (document.version : ℚ) ∧
      1 ≤ document.version ∧ document.version ≤ supportedVersion) ∨
    (∀ integer : Int, number? version = some (integer : ℚ) →
      ¬ (1 ≤ integer ∧ integer ≤ supportedVersion)) ∧
    ∃ fault, outcome = .error (.reported fault) ∧ fault.code = .config

/-- A version slips: it is a fraction that converts to a supported version, or an infinity. -/
def Slips (version : Json) : Prop :=
  (∃ number : ℚ, number? version = some number ∧ 1 < number ∧ number < supportedVersion + 1 ∧
      ∀ integer : Int, number ≠ integer) ∨
    ∃ negative, version = .real (.infinite negative)

/-- A number that slips lies between one and the version after the supported one, and is no
integer. -/
theorem slips_iff_of_number (isNumber : number? version = some number) :
    Slips version ↔ 1 < number ∧ number < supportedVersion + 1 ∧
      ∀ integer : Int, number ≠ integer := by
  constructor
  · rintro (⟨other, isOther, between⟩ | ⟨negative, rfl⟩)
    · cases isNumber.symm.trans isOther
      exact between
    · cases isNumber
  · intro between
    exact Or.inl ⟨number, isNumber, between⟩

theorem slips_iff_of_none (noNumber : number? version = none) :
    Slips version ↔ ∃ negative, version = .real (.infinite negative) := by
  constructor
  · rintro (⟨number, isNumber, _⟩ | isInfinite)
    · cases noNumber.symm.trans isNumber
    · exact isInfinite
  · exact Or.inr

/-- To load a version is lawful if its number is an integer. -/
theorem lawful_ok_iff {document : Document} (isNumber : number? version = some number)
    (positive : 1 ≤ number) (supported : number < supportedVersion + 1)
    (rounded : document.version = ⌊number⌋) :
    Lawful version (.ok document) ↔ ∃ integer : Int, number = integer := by
  constructor
  · rintro (⟨loaded, _, same, _⟩ | ⟨_, _, failed, _⟩)
    · exact ⟨loaded.version, Option.some.inj (isNumber.symm.trans same)⟩
    · cases failed
  · rintro ⟨integer, rfl⟩
    rw [Int.floor_intCast] at rounded
    rw [← rounded] at isNumber positive supported
    refine Or.inl ⟨document, rfl, isNumber, by exact_mod_cast positive, ?_⟩
    have next : document.version < (supportedVersion : Int) + 1 := by exact_mod_cast supported
    omega

/-- To refuse a version is lawful if its number is no supported integer. -/
theorem lawful_refuse (problem : Problem)
    (foreign : ∀ number, number? version = some number →
      number < 1 ∨ supportedVersion + 1 ≤ number) :
    Lawful version (refuse source problem) := by
  refine Or.inr ⟨?_, _, rfl, rfl⟩
  rintro integer isNumber ⟨positive, supported⟩
  rcases foreign _ isNumber with small | large
  · have below : integer < 1 := by exact_mod_cast small
    omega
  · have beyond : (supportedVersion : Int) + 1 ≤ integer := by exact_mod_cast large
    omega

/-- The gate does what is asked of it exactly for the versions that do not slip. -/
theorem Gated.lawful_iff (gated : Gated source version outcome) :
    Lawful version outcome ↔ ¬ Slips version := by
  cases gated with
  | @admitted number document isNumber positive supported rounded =>
    rw [lawful_ok_iff isNumber positive supported rounded, slips_iff_of_number isNumber]
    constructor
    · rintro ⟨integer, same⟩ ⟨_, _, broken⟩
      exact broken integer same
    · intro fits
      by_contra broken
      have fraction : ∀ integer : Int, number ≠ integer := not_exists.mp broken
      have large : number ≠ 1 := by exact_mod_cast fraction 1
      exact fits ⟨lt_of_le_of_ne positive large.symm, supported, fraction⟩
  | @notPositive number isNumber small =>
    have lawful : Lawful version (refuse source .versionNotPositive) := by
      apply lawful_refuse
      intro other isOther
      cases isNumber.symm.trans isOther
      exact Or.inl small
    rw [slips_iff_of_number isNumber]
    exact iff_of_true lawful fun ⟨large, _⟩ => absurd small large.not_gt
  | @tooNew number isNumber large =>
    have lawful : Lawful version (refuse source (.versionTooNew ⌊number⌋)) := by
      apply lawful_refuse
      intro other isOther
      cases isNumber.symm.trans isOther
      exact Or.inr large
    rw [slips_iff_of_number isNumber]
    exact iff_of_true lawful fun ⟨_, supported, _⟩ => absurd large supported.not_ge
  | notInteger noNumber bounded =>
    have lawful : Lawful version (refuse source .versionNotInteger) := by
      apply lawful_refuse
      intro other isOther
      cases noNumber.symm.trans isOther
    rw [slips_iff_of_none noNumber]
    exact iff_of_true lawful fun ⟨negative, isInfinite⟩ => bounded negative isInfinite
  | infinite isInfinite =>
    apply iff_of_false
    · rintro (⟨_, loaded, _⟩ | ⟨_, _, failed, _⟩)
      · cases loaded
      · cases failed
    · exact fun fits => fits (Or.inr ⟨_, isInfinite⟩)

/-- **Which versions pass the gate.** Where a file holds an object in which nothing but the version
may be wrong, the outcome is settled by the number that the version stands for. A fraction passes as
the integer below it, and an infinity crashes the gate; for every other version, the gate does what
is asked of it. A version that is written as an integer with more digits than are converted is not
even read. -/
theorem version_gate {files : Files} {path : FilePath} {bytes : List UInt8} {text : Text}
    (found : files.read path = .ok bytes) (decoded : Utf8.decode bytes = .ok text)
    (wanted : Option Text) (overrides : Json) :
    let outcome := load files (.file path) wanted overrides
    (∀ raw, Json.read text.unifyNewlines = .ok (.object raw) →
      (∃ document, ofJson (.file path) wanted overrides
        (.object (Json.put "version" (.integer 1) raw)) = .ok document) →
      let version := (Json.find? "version" raw).getD .null
      Gated (.file path) version outcome ∧ (Lawful version outcome ↔ ¬ Slips version)) ∧
    ∀ digits, Json.HasOverlong text.unifyNewlines "version" digits →
      outcome = .error (.crash (.numeralTooLong digits)) := by
  dsimp only
  constructor
  · rintro raw parsed ⟨document, sound⟩
    have read : readSource files (.file path) = .ok (.object raw) :=
      readSource_eq_ok.mpr ⟨bytes, found, readJson_eq_ok.mpr ⟨text, decoded, parsed⟩⟩
    have gated := gated_of_sound sound
    rw [load, read]
    exact ⟨gated, gated.lawful_iff⟩
  · intro digits overlong
    have unparsed := Json.read_of_overlong overlong
    have failed : readSource files (.file path) = .error (.crash (.numeralTooLong digits)) := by
      simp only [readSource, readJson, found, decoded, unparsed]
    rw [load, failed]
    rfl

/-! ### One and a half -/

/-- A document in which nothing but the version is wrong. -/
def halfway : Text :=
  "\x7b\"version\": 1.5, \"global\": \x7b\x7d, \"profiles\": \x7b\"a\": " ++
    "\x7b\"description\": \"b\", \"target\": \"d\", \"string\": \"dad\"\x7d\x7d\x7d"

/-- The members of the document. -/
def halfwayMembers : List (Text × Json) :=
  [("version", .real (.finite false 0x18000000000000 (-52))), ("global", .object []),
   ("profiles", .object [("a", bundledProfile "b" "d" "dad")])]

/-- What is loaded from it, as if its version were one. -/
def halfwayLoaded : Document :=
  ⟨.file ⟨[], [['c']]⟩, 1, {}, [(['a'], ⟨['b'], 'd', ['d', 'a', 'd']⟩)]⟩

theorem read_halfway : Json.read halfway.unifyNewlines = .ok (.object halfwayMembers) := rfl

theorem ofJson_halfway_one :
    ofJson (.file ⟨[], [['c']]⟩) none .null
      (.object (Json.put "version" (.integer 1) halfwayMembers)) = .ok halfwayLoaded := by
  decide +kernel

theorem load_halfway :
    load { entries := [([['c']], .document (Utf8.encode halfway))] } (.file ⟨[], [['c']]⟩) none =
      .ok halfwayLoaded := by
  decide +kernel

/-- The version slips through the gate. -/
theorem version_gate_halfway :
    let files : Files := { entries := [([['c']], .document (Utf8.encode halfway))] }
    let version := (Json.find? "version" halfwayMembers).getD .null
    files.read ⟨[], [['c']]⟩ = .ok (Utf8.encode halfway) ∧
      Utf8.decode (Utf8.encode halfway) = .ok halfway ∧
      Gated (.file ⟨[], [['c']]⟩) version (load files (.file ⟨[], [['c']]⟩) none) ∧
      (Lawful version (load files (.file ⟨[], [['c']]⟩) none) ↔ ¬ Slips version) := by
  dsimp only
  have found :
      Files.read { entries := [([['c']], .document (Utf8.encode halfway))] } ⟨[], [['c']]⟩ =
        .ok (Utf8.encode halfway) := rfl
  have whole : halfway.isWhole = true := by decide
  have decoded := Utf8.decode_encode whole
  obtain ⟨gated, lawful⟩ := (version_gate found decoded none .null).1 halfwayMembers read_halfway
    ⟨halfwayLoaded, ofJson_halfway_one⟩
  exact ⟨found, decoded, gated, lawful⟩

/-- The gate does not do what is asked of it for every version. -/
theorem load_halfway_unlawful :
    ¬ ∀ (files : Files) (path : FilePath) (bytes : List UInt8) (text : Text) (wanted : Option Text)
        (raw : List (Text × Json)),
      files.read path = .ok bytes → Utf8.decode bytes = .ok text →
      Json.read text.unifyNewlines = .ok (.object raw) →
      (∃ document, ofJson (.file path) wanted .null
        (.object (Json.put "version" (.integer 1) raw)) = .ok document) →
      Lawful ((Json.find? "version" raw).getD .null) (load files (.file path) wanted) := by
  intro all
  have lawful := all { entries := [([['c']], .document (Utf8.encode halfway))] } ⟨[], [['c']]⟩ _
    halfway none halfwayMembers rfl (Utf8.decode_encode (by decide)) read_halfway
    ⟨_, ofJson_halfway_one⟩
  rw [load_halfway] at lawful
  rcases lawful with ⟨document, loaded, same, _⟩ | ⟨_, _, failed, _⟩
  · cases loaded
    have isOne : Binary64.rational false 0x18000000000000 (-52) = 1 := Option.some.inj same
    norm_num [Binary64.rational] at isOne
  · cases failed

end Settings

end CharTally
