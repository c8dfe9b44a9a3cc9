import Relational.Proofs.Digests
import Relational.Proofs.Moments
import Relational.Proofs.Residues
import Relational.Value.Equality

/-!
# Equal scalars have equal digests

Numbers of all kinds are equal if their exact values are, and their digests are made of the residues
of these. Text is equal by its characters, moments and times of day in universal time, and the same
goes into their digests.

This holds of the scalars that are not of a fixed width. A fraction has to be in lowest terms, and
days and times of day have to exist.
-/

namespace Relational

/-! ### Equal digests -/

namespace Digest

mutual

theorem eq_of_same {d e : Digest} (h : d.same e = true) : d = e :=
  match d with
  | .number n => by
    cases e with
    | number m => rw [eq_of_beq (a := n) h]
    | _ => cases h
  | .data bytes => by
    cases e with
    | data bytes' => rw [eq_of_beq (a := bytes) h]
    | _ => cases h
  | .word name => by
    cases e with
    | word name' => rw [eq_of_beq (a := name) h]
    | _ => cases h
  | .unique => by cases e <;> cases h
  | .reduced d => by
    cases e with
    | reduced e => rw [eq_of_same (d := d) h]
    | _ => cases h
  | .sequence ds => by
    cases e with
    | sequence es =>
      have all : sameAll ds es = true := h
      rw [eq_of_sameAll all]
    | _ => cases h
termination_by structural d

theorem eq_of_sameAll {ds es : List Digest} (h : sameAll ds es = true) : ds = es :=
  match ds with
  | [] => by
    cases es with
    | nil => rfl
    | cons e es => cases h
  | d :: ds => by
    cases es with
    | nil => cases h
    | cons e es =>
      obtain ⟨first, rest⟩ := Bool.and_eq_true_iff.mp h
      rw [eq_of_same first, eq_of_sameAll rest]
termination_by structural ds

end

/-- Digests are equal if they are the same and nothing unique is in them. -/
theorem same_iff {d e : Digest} : d.same e = true ↔ d = e ∧ d.IsKnown := by
  constructor
  · intro h
    obtain rfl := eq_of_same h
    exact ⟨rfl, h⟩
  · rintro ⟨rfl, known⟩
    exact known

end Digest

/-! ### Numbers -/

section Numbers

open Number

/-- The digest of a number with a real and an imaginary part. -/
def Digest.ofParts (a b : Exact) : Digest :=
  match a.residue?, b.residue? with
  | some r, some s => .number (Exact.reserve (wrapWord (r + 1000003 * s)))
  | _, _ => .unique

theorem Digest.ofParts_eq {a b : Exact} {r s : Int} (ha : a.residue? = some r)
    (hb : b.residue? = some s) :
    ofParts a b = .number (Exact.reserve (wrapWord (r + 1000003 * s))) := by
  rw [ofParts, ha, hb]

theorem residue?_zero : (Exact.quotient 0 1).residue? = some 0 := by
  have size : Exact.magnitude 0 1 0 = 0 := by
    rw [Exact.magnitude, if_neg (by decide)]
    simp
  rw [Exact.quotient, Exact.residue?_finite, size]
  rfl

/-- The digest of a real number is that of a number without an imaginary part. -/
theorem Digest.ofExact_eq (x : Exact) : ofExact x = ofParts x (.quotient 0 1) := by
  cases h : x.residue? with
  | none => rw [ofExact, ofParts, h]
  | some r =>
    obtain ⟨low, high, ne⟩ := Exact.residue?_bounds h
    have small : (Exact.modulus : Int) < 9223372036854775808 := by decide
    have word : wrapWord (r + 1000003 * 0) = r := by
      rw [Int.mul_zero, Int.add_zero, wrapWord]
      exact Int.bmod_eq_of_le (by omega) (by omega)
    rw [ofExact, h, ofParts_eq h residue?_zero, word, Exact.reserve, if_neg ne]

theorem exists_residue {x y : Exact} (h : x.same y = true) : ∃ r, x.residue? = some r := by
  cases x with
  | nan => cases h
  | infinite negative => exact ⟨_, rfl⟩
  | finite n d p => exact ⟨_, rfl⟩

/-- Numbers with equal parts have equal digests. -/
theorem Digest.ofParts_same {a b c d : Exact} (ha : a.IsReduced) (hb : b.IsReduced)
    (hc : c.IsReduced) (hd : d.IsReduced) (hac : a.same c = true) (hbd : b.same d = true) :
    (ofParts a b).same (ofParts c d) = true := by
  obtain ⟨r, hr⟩ := exists_residue hac
  obtain ⟨s, hs⟩ := exists_residue hbd
  have hr' := (Exact.residue?_eq_of_same ha hc hac).symm.trans hr
  have hs' := (Exact.residue?_eq_of_same hb hd hbd).symm.trans hs
  rw [ofParts_eq hr hs, ofParts_eq hr' hs']
  exact isKnown_number _

theorem isReduced_binary (x : Binary) : x.exact.IsReduced := by
  have odd (k : Nat) : ¬ Exact.modulus ∣ Nat.pow 2 k := by
    intro h
    exact absurd (Exact.prime_modulus.dvd_of_dvd_pow h) (by decide)
  cases x with
  | nan | infinite => trivial
  | finite negative m unit =>
    cases unit with
    | ofNat k => exact ⟨Nat.one_pos, fun h => absurd h (by decide)⟩
    | negSucc k => exact ⟨Nat.pow_pos (by decide), fun h => absurd h (odd _)⟩

theorem isReduced_decimal (x : Number.Decimal) : x.exact.IsReduced := by
  cases x with
  | nan | infinite => trivial
  | finite negative n e => exact ⟨Nat.one_pos, fun h => absurd h (by decide)⟩

theorem isReduced_int (n : Int) : (Exact.quotient n 1).IsReduced :=
  ⟨Nat.one_pos, fun h => absurd h (by decide)⟩

theorem isReduced_fraction {n : Int} {d : Nat} (positive : 0 < d) (lowest : n.natAbs.Coprime d) :
    (Exact.quotient n d).IsReduced :=
  ⟨positive, fun hd hn => Exact.prime_modulus.one_lt.ne'
    (Nat.eq_one_of_dvd_coprimes lowest hn hd)⟩

end Numbers

/-! ### Moments -/

namespace Digest

theorem isKnown_ofBytes (bytes : List UInt8) : (ofBytes bytes).IsKnown := by
  unfold ofBytes
  split
  · exact isKnown_number 0
  · exact beq_self_eq_true bytes

theorem isKnown_ofSpan (days microseconds : Int) : (ofSpan days microseconds).IsKnown :=
  isKnown_tuple (List.forall_mem_map.mpr fun n _ => isKnown_ofInt n)

theorem isKnown_ofClock (day : List UInt8) (number : Int) (clock : ClockTime)
    (offset : Option Int) : (ofClock day number clock offset).IsKnown := by
  cases offset with
  | none => exact isKnown_ofBytes _
  | some z => exact isKnown_ofSpan _ _

end Digest

/-- Equal moments have equal digests. -/
theorem DateTime.digest_of_same {s t : DateTime} (hs : s.isValid = true) (ht : t.isValid = true)
    (offsets : s.offset.isSome = t.offset.isSome) (h : s.instant = t.instant) :
    s.digest = t.digest := by
  obtain ⟨date, clock, offset⟩ := s
  obtain ⟨date', clock', offset'⟩ := t
  rcases offset with _ | z <;> rcases offset' with _ | z'
  · rw [eq_of_instant_eq hs ht rfl rfl h]
  · cases offsets
  · cases offsets
  · simp only [instant, Option.getD_some] at h
    simp only [digest, Digest.ofClock, Digest.ofSpan, Date.ordinal]
    rw [spanParts_eq]
    omega

/-- The digest of a moment down to nanoseconds. -/
def Timestamp.digest (t : Timestamp) : Digest :=
  if t.nanosecond = 0 then t.moment.digest else .ofInt t.count

/-- Whether a moment down to nanoseconds exists. -/
def Timestamp.isValid (t : Timestamp) : Bool := t.moment.isValid && t.nanosecond < 1000

theorem Timestamp.digest_same {s t : Timestamp} (hs : s.isValid = true) (ht : t.isValid = true)
    (h : s.same t = true) : s.digest.same t.digest = true := by
  obtain ⟨moment, small⟩ := Bool.and_eq_true_iff.mp hs
  obtain ⟨moment', small'⟩ := Bool.and_eq_true_iff.mp ht
  obtain ⟨offsets, instants⟩ := Bool.and_eq_true_iff.mp h
  rw [decide_eq_true_eq] at small small'
  rw [beq_iff_eq] at offsets instants
  have below : s.nanosecond = t.nanosecond := by
    unfold instant at instants
    omega
  have above : s.moment.instant = t.moment.instant := by
    unfold instant at instants
    omega
  unfold digest
  rw [below, DateTime.digest_of_same moment moment' offsets above, count, count, instants]
  split
  · exact Digest.isKnown_ofClock _ _ _ _
  · exact Digest.isKnown_ofInt _

/-- Equal times of day have equal digests. -/
theorem ZonedTime.digest_same {s t : ZonedTime} (hs : s.clock.isValid = true)
    (ht : t.clock.isValid = true) (h : s.same t = true) :
    (Digest.ofClock [] 0 s.clock s.offset).same (Digest.ofClock [] 0 t.clock t.offset) = true := by
  obtain ⟨offsets, times⟩ := Bool.and_eq_true_iff.mp h
  rw [beq_iff_eq] at offsets times
  have equal : Digest.ofClock [] 0 s.clock s.offset = Digest.ofClock [] 0 t.clock t.offset := by
    obtain ⟨clock, offset⟩ := s
    obtain ⟨clock', offset'⟩ := t
    rcases offset with _ | z <;> rcases offset' with _ | z'
    · have clocks : clock = clock' := by
        simp only [Option.getD_none] at times
        exact ClockTime.eq_of_microseconds_eq hs ht (show clock.microseconds = _ by omega)
      rw [clocks]
    · cases offsets
    · cases offsets
    · simp only [Option.getD_some] at times
      simp only [Digest.ofClock, times]
  rw [equal]
  exact Digest.isKnown_ofClock _ _ _ _

/-! ### Scalars -/

namespace Value

/-- Lists, tuples, sets and records. -/
def isContainer : Value → Bool
  | .list _ | .tuple _ | .set _ | .record .. => true
  | _ => false

/-- Scalars that are not of a fixed width and have a digest. Fractions are in lowest terms, and
moments and times of day exist. -/
def isPlain : Value → Bool
  | .null | .bool _ | .int _ | .float _ | .complex .. | .text _ | .fixedText _ | .date _ |
    .bytes false _ | .notATime => true
  | .decimal d => !(Value.decimal d).isSignaling
  | .fraction n d => 0 < d && n.natAbs.gcd d == 1
  | .datetime t => t.isValid
  | .timestamp t => t.isValid
  | .time t => t.clock.isValid
  | _ => false

/-- Plain scalars, and containers. -/
def isOrdinary (v : Value) : Bool := v.isPlain || v.isContainer

variable {v w : Value} {before after : List Notice}

theorem digest_of_isPlain (hv : v.isPlain = true) : v.digest = pure v.scalarDigest := by
  cases v with
  | decimal d =>
    cases d with
    | nan negative signaling payload =>
      cases signaling with
      | false => rfl
      | true => cases hv
    | finite | infinite => rfl
  | bytes growable data =>
    cases growable with
    | false => rfl
    | true => cases hv
  | record frozen es => cases hv
  | list | tuple | set | array | frame => cases hv
  | _ => rfl

theorem isFixed_of_isOrdinary (hv : v.isOrdinary = true) : v.isFixed = false := by
  cases v with
  | fixedInt | fixedBool | fixedFloat | fixedDate | array => cases hv
  | _ => rfl

/-- Ordinary values are compared by their exact values, their text or their moments. -/
theorem sameScalar_of_sameMixed (hv : v.isOrdinary = true) (hw : w.isOrdinary = true)
    (h : (v.sameMixed w).Returns before true after) : v.sameScalar w = .ok true := by
  unfold sameMixed at h
  split at h
  case h_9 =>
    have same := (report_pure.mp h).1
    cases w with
    | null => rfl
    | _ => exact absurd same Bool.false_ne_true
  case h_10 =>
    have same := (report_pure.mp h).1
    cases v with
    | null => rfl
    | _ => exact absurd same Bool.false_ne_true
  case h_12 =>
    rw [isFixed_of_isOrdinary hv, isFixed_of_isOrdinary hw] at h
    exact (report_lift.mp h).1
  all_goals first | exact absurd hv Bool.false_ne_true | exact absurd hw Bool.false_ne_true

theorem isReduced_parts {a b : Number.Exact} (hv : v.isPlain = true) (h : v.parts? = some (a, b)) :
    a.IsReduced ∧ b.IsReduced ∧ v.scalarDigest = .ofParts a b := by
  have zero := isReduced_int 0
  cases v with
  | bool | int =>
    cases h
    exact ⟨isReduced_int _, zero, Digest.ofExact_eq (.quotient _ 1)⟩
  | float x =>
    cases h
    exact ⟨isReduced_binary x, zero, Digest.ofExact_eq _⟩
  | decimal d =>
    cases h
    exact ⟨isReduced_decimal d, zero, Digest.ofExact_eq _⟩
  | fraction n d =>
    cases h
    simp only [isPlain, Bool.and_eq_true, decide_eq_true_eq, beq_iff_eq] at hv
    exact ⟨isReduced_fraction hv.1 hv.2, zero, Digest.ofExact_eq (.quotient n d)⟩
  | complex re im =>
    cases h
    exact ⟨isReduced_binary re, isReduced_binary im, rfl⟩
  | fixedBool | fixedInt | fixedFloat => cases hv
  | _ => cases h

theorem scalarDigest_of_text? {s : String} (h : v.text? = some s) :
    v.scalarDigest = .ofText s := by
  cases v with
  | text | fixedText =>
    cases h
    rfl
  | _ => cases h

theorem scalarDigest_of_stamp? {t : Timestamp} (hv : v.isPlain = true) (h : v.stamp? = some t) :
    t.isValid = true ∧ v.scalarDigest = t.digest := by
  cases v with
  | datetime t =>
    cases h
    exact ⟨Bool.and_eq_true_iff.mpr ⟨hv, rfl⟩, rfl⟩
  | timestamp t =>
    cases h
    exact ⟨hv, rfl⟩
  | _ => cases h

theorem scalarDigest_same_of_sameThing (hv : v.isPlain = true) (hw : w.isPlain = true)
    (h : v.sameThing w = true) : v.scalarDigest.same w.scalarDigest = true := by
  unfold sameThing at h
  split at h
  case h_1 s t hs ht =>
    rw [scalarDigest_of_text? hs, scalarDigest_of_text? ht, eq_of_beq h]
    exact Digest.isKnown_ofText t
  case h_4 =>
    split at h
    case h_1 s t hs ht =>
      obtain ⟨valid, digest⟩ := scalarDigest_of_stamp? hv hs
      obtain ⟨valid', digest'⟩ := scalarDigest_of_stamp? hw ht
      rw [digest, digest']
      exact Timestamp.digest_same valid valid' h
    case h_4 =>
      split at h
      case h_1 => exact Digest.isKnown_word _
      case h_2 | h_3 =>
        obtain rfl := eq_of_beq h
        exact Digest.isKnown_ofBytes _
      case h_4 => exact ZonedTime.digest_same hv hw h
      case h_5 => cases h
    all_goals cases h
  all_goals cases h

/-- Equal plain scalars have equal digests. -/
theorem scalarDigest_same (hv : v.isPlain = true) (hw : w.isPlain = true)
    (h : v.sameScalar w = .ok true) : v.scalarDigest.same w.scalarDigest = true := by
  unfold sameScalar at h
  split at h
  case h_1 a b c d hab hcd =>
    obtain ⟨ha, hb, digest⟩ := isReduced_parts hv hab
    obtain ⟨hc, hd, digest'⟩ := isReduced_parts hw hcd
    split at h
    · cases h
    · obtain ⟨real, imaginary⟩ := Bool.and_eq_true_iff.mp (Except.ok.inj h)
      rw [digest, digest']
      exact Digest.ofParts_same ha hb hc hd real imaginary
  case h_4 => exact scalarDigest_same_of_sameThing hv hw (Except.ok.inj h)
  all_goals cases h

/-- Containers have neither an exact value nor text nor a moment. -/
theorem sameScalar_of_isContainer (h : v.isContainer = true ∨ w.isContainer = true) :
    v.sameScalar w = .ok false := by
  rcases h with h | h
  · cases v with
    | list | tuple | set | record => cases w <;> rfl
    | _ => cases h
  · cases w with
    | list | tuple | set | record => cases v <;> rfl
    | _ => cases h

end Value

end Relational
