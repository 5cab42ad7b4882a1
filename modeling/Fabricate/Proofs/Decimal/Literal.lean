import Mathlib.Data.List.Induction
import Fabricate.Decimal.Real
import Fabricate.Proofs.Decimal.Integer
import Fabricate.Proofs.Text.Cut

/-!
# Decimal literals

A literal is an optional sign, one at most, and ASCII digits with or without a point among them. What
it denotes is said here without a reader: an integer by the places of its digits (`DenotesInt`), a
real by its digits and the number of them behind the point (`DenotesReal`). The readers accept
exactly these texts and give what they denote (`int?_eq_some_iff`, `literal?_eq_some_iff`).

A sign is split off blindly, and the rest decides. That no other way of splitting is missed follows
from what the rest starts with: a digit or a point, never a second sign (`splitSign_of_signed`).

The characters of a literal tell it from other texts (`DenotesReal.chars`), and the point tells the
literals of reals from those of integers (`DenotesReal.exists_int`).

An integer has many literals and one text. The literal that is the text is the one without a plus
sign, without needless zeros in front and without a sign at zero (`ofInt_eq_iff`).
-/

namespace Fabricate.Decimal

/-- An optional sign in front of a text; it may say minus. -/
inductive Signed : Bool → List Char → List Char → Prop
  | absent (cs : List Char) : Signed false cs cs
  | plus (cs : List Char) : Signed false ('+' :: cs) cs
  | minus (cs : List Char) : Signed true ('-' :: cs) cs

/-- The number that digits denote by their places. -/
def placeValue : List Char → Nat
  | [] => 0
  | d :: r => (d.toNat - '0'.toNat) * 10 ^ r.length + placeValue r

/-- The text is an optional sign and digits, and denotes the integer. -/
inductive DenotesInt (cs : List Char) : Int → Prop
  | intro {negative : Bool} {ds : List Char} (sign : Signed negative cs ds) (filled : ds ≠ [])
      (digits : ∀ d ∈ ds, d.isDigit = true) :
      DenotesInt cs (if negative then -(placeValue ds : Int) else placeValue ds)

/-- The text is an optional sign and digits, with one point among them or without, and denotes the
real. -/
inductive DenotesReal (cs : List Char) : Float → Prop
  | integral {negative : Bool} {ds : List Char} (sign : Signed negative cs ds) (filled : ds ≠ [])
      (digits : ∀ d ∈ ds, d.isDigit = true) :
      DenotesReal cs (signedReal negative (placeValue ds) 0)
  | pointed {negative : Bool} {whole fraction : List Char}
      (sign : Signed negative cs (whole ++ '.' :: fraction)) (filled : whole ++ fraction ≠ [])
      (digits : ∀ d ∈ whole ++ fraction, d.isDigit = true) :
      DenotesReal cs (signedReal negative (placeValue (whole ++ fraction)) (-fraction.length))

/-! ### Signs -/

theorem signed_splitSign (cs : List Char) : Signed (splitSign cs).1 cs (splitSign cs).2 := by
  unfold splitSign
  split
  · exact .minus _
  · exact .plus _
  · exact .absent _

/-- A sign is found in front of a text that starts with none. -/
theorem splitSign_of_signed {negative : Bool} {cs ds : List Char} (h : Signed negative cs ds)
    (start : ∀ c, ds.head? = some c → c ≠ '-' ∧ c ≠ '+') : splitSign cs = (negative, ds) := by
  cases h with
  | plus => rfl
  | minus => rfl
  | absent =>
      unfold splitSign
      split
      · exact absurd rfl (start '-' rfl).1
      · exact absurd rfl (start '+' rfl).2
      · rfl

theorem mem_of_signed {negative : Bool} {cs ds : List Char} (h : Signed negative cs ds) {c : Char}
    (member : c ∈ cs) : c ∈ ds ∨ c = '-' ∨ c = '+' := by
  cases h with
  | absent => exact .inl member
  | plus =>
      rcases List.mem_cons.1 member with rfl | later
      · exact .inr (.inr rfl)
      · exact .inl later
  | minus =>
      rcases List.mem_cons.1 member with rfl | later
      · exact .inr (.inl rfl)
      · exact .inl later

theorem ne_sign_of_isDigit {c : Char} (h : c.isDigit = true) : c ≠ '-' ∧ c ≠ '+' := by
  constructor <;> rintro rfl <;> cases h

theorem splitSign_of_digits {negative : Bool} {cs ds : List Char} (h : Signed negative cs ds)
    (digits : ∀ d ∈ ds, d.isDigit = true) : splitSign cs = (negative, ds) :=
  splitSign_of_signed h fun c first => ne_sign_of_isDigit (digits c (List.mem_of_head? first))

theorem splitSign_of_pointed {negative : Bool} {cs whole fraction : List Char}
    (h : Signed negative cs (whole ++ '.' :: fraction)) (digits : ∀ d ∈ whole, d.isDigit = true) :
    splitSign cs = (negative, whole ++ '.' :: fraction) := by
  refine splitSign_of_signed h fun c first => ?_
  cases whole with
  | nil =>
      cases first
      decide
  | cons d r =>
      cases first
      exact ne_sign_of_isDigit (digits _ List.mem_cons_self)

/-! ### Digits -/

theorem natOf_eq_placeValue (ds : List Char) : natOf ds = placeValue ds := by
  induction ds with
  | nil => rfl
  | cons d r ih =>
      rw [natOf, Nat.ofDigitChars_cons, Nat.ofDigitChars_eq_ofDigitChars_zero, ← natOf, ih,
        placeValue, Nat.mul_zero, Nat.zero_add, Nat.mul_comm]

theorem nat?_eq_some_iff {ds : List Char} {n : Nat} :
    nat? ds = some n ↔ (ds ≠ [] ∧ ∀ d ∈ ds, d.isDigit = true) ∧ placeValue ds = n := by
  rw [nat?, ← isDigits_iff, ← natOf_eq_placeValue]
  simp

theorem pointed?_eq_some_iff {cs whole fraction : List Char} :
    pointed? cs = some (whole, fraction) ↔
      cs = whole ++ '.' :: fraction ∧ (∀ d ∈ whole ++ fraction, d.isDigit = true) ∧
        whole ++ fraction ≠ [] := by
  have split : cs = cs.takeWhile Char.isDigit ++ cs.dropWhile Char.isDigit :=
    List.takeWhile_append_dropWhile.symm
  constructor
  · intro h
    unfold pointed? at h
    split at h
    · next r after =>
        dsimp only at h
        split at h
        · next accepted =>
            cases h
            rw [after] at split
            rw [Bool.and_eq_true, List.all_eq_true, Bool.not_eq_true', Bool.and_eq_false_iff,
              List.isEmpty_eq_false_iff, List.isEmpty_eq_false_iff] at accepted
            refine ⟨split, fun d member => ?_, ?_⟩
            · rcases List.mem_append.1 member with before | behind
              · exact List.all_eq_true.1 List.all_takeWhile d before
              · exact accepted.1 d behind
            · rw [ne_eq, List.append_eq_nil_iff, not_and_or]
              exact accepted.2
        · cases h
    · cases h
  · rintro ⟨rfl, digits, filled⟩
    have before : ∀ d ∈ whole, d.isDigit = true := fun d member =>
      digits d (List.mem_append_left _ member)
    have behind : ∀ d ∈ fraction, d.isDigit = true := fun d member =>
      digits d (List.mem_append_right _ member)
    have ends : ∀ c, ('.' :: fraction).head? = some c → c.isDigit = false := by
      rintro c ⟨⟩
      rfl
    have accepted : (fraction.all Char.isDigit && !(whole.isEmpty && fraction.isEmpty)) = true := by
      rw [Bool.and_eq_true, List.all_eq_true, Bool.not_eq_true', Bool.and_eq_false_iff,
        List.isEmpty_eq_false_iff, List.isEmpty_eq_false_iff, ← not_and_or, ← List.append_eq_nil_iff]
      exact ⟨behind, filled⟩
    rw [pointed?, Text.dropWhile_append before ends, Text.takeWhile_append before ends]
    exact if_pos accepted

/-! ### Readers -/

theorem int?_eq_some_iff {cs : List Char} {n : Int} : int? cs = some n ↔ DenotesInt cs n := by
  have sign := signed_splitSign cs
  constructor
  · intro h
    obtain ⟨m, read, rfl⟩ := Option.map_eq_some_iff.1 h
    obtain ⟨k, number, whole⟩ := Option.bind_eq_some_iff.1 read
    cases whole
    obtain ⟨⟨filled, digits⟩, rfl⟩ := nat?_eq_some_iff.1 number
    exact .intro sign filled digits
  · rintro ⟨sign, filled, digits⟩
    rw [int?, splitSign_of_digits sign digits]
    dsimp only
    rw [nat?_eq_some_iff.2 ⟨⟨filled, digits⟩, rfl⟩]
    rfl

theorem literal?_eq_some_iff {cs : List Char} {x : Float} :
    literal? cs = some x ↔ DenotesReal cs x := by
  have sign := signed_splitSign cs
  constructor
  · intro h
    unfold literal? at h
    dsimp only at h
    split at h
    · next row =>
        cases h
        obtain ⟨filled, digits⟩ := isDigits_iff.1 row
        rw [natOf_eq_placeValue]
        exact .integral sign filled digits
    · obtain ⟨⟨whole, fraction⟩, cut, rfl⟩ := Option.map_eq_some_iff.1 h
      obtain ⟨parts, digits, filled⟩ := pointed?_eq_some_iff.1 cut
      rw [parts] at sign
      dsimp only
      rw [natOf_eq_placeValue]
      exact .pointed sign filled digits
  · intro h
    cases h with
    | integral sign filled digits =>
        rw [literal?, splitSign_of_digits sign digits]
        dsimp only
        rw [if_pos (isDigits_iff.2 ⟨filled, digits⟩), natOf_eq_placeValue]
    | @pointed negative whole fraction sign filled digits =>
        have before : ∀ d ∈ whole, d.isDigit = true := fun d member =>
          digits d (List.mem_append_left _ member)
        have row : ¬ isDigits (whole ++ '.' :: fraction) = true := by
          intro row
          have digit := (isDigits_iff.1 row).2 '.' (by simp)
          cases digit
        rw [literal?, splitSign_of_pointed sign before]
        dsimp only
        rw [if_neg row, pointed?_eq_some_iff.2 ⟨rfl, digits, filled⟩, ← natOf_eq_placeValue]
        rfl

theorem DenotesInt.unique {cs : List Char} {m n : Int} (h : DenotesInt cs m)
    (h' : DenotesInt cs n) : m = n :=
  Option.some.inj ((int?_eq_some_iff.2 h).symm.trans (int?_eq_some_iff.2 h'))

theorem DenotesReal.unique {cs : List Char} {x y : Float} (h : DenotesReal cs x)
    (h' : DenotesReal cs y) : x = y :=
  Option.some.inj ((literal?_eq_some_iff.2 h).symm.trans (literal?_eq_some_iff.2 h'))

/-! ### What literals look like -/

/-- The characters of literals: digits, signs and the point. -/
def IsLiteralChar (c : Char) : Prop :=
  c.isDigit = true ∨ c = '-' ∨ c = '+' ∨ c = '.'

theorem DenotesReal.chars {cs : List Char} {x : Float} (h : DenotesReal cs x) :
    ∀ c ∈ cs, IsLiteralChar c := by
  intro c member
  cases h with
  | integral sign _ digits =>
      rcases mem_of_signed sign member with digit | minus | plus
      · exact .inl (digits c digit)
      · exact .inr (.inl minus)
      · exact .inr (.inr (.inl plus))
  | pointed sign _ digits =>
      rcases mem_of_signed sign member with inside | minus | plus
      · rcases List.mem_append.1 inside with digit | behind
        · exact .inl (digits c (List.mem_append_left _ digit))
        · rcases List.mem_cons.1 behind with point | digit
          · exact .inr (.inr (.inr point))
          · exact .inl (digits c (List.mem_append_right _ digit))
      · exact .inr (.inl minus)
      · exact .inr (.inr (.inl plus))

theorem DenotesInt.chars {cs : List Char} {n : Int} (h : DenotesInt cs n) :
    ∀ c ∈ cs, c.isDigit = true ∨ c = '-' ∨ c = '+' := by
  intro c member
  cases h with
  | intro sign _ digits => exact (mem_of_signed sign member).imp_left (digits c)

/-- Behind its first character an integer has digits. -/
theorem DenotesInt.isDigit_behind {c : Char} {r : List Char} {n : Int} (h : DenotesInt (c :: r) n) :
    ∀ d ∈ r, d.isDigit = true := by
  cases h with
  | intro sign _ digits =>
      cases sign with
      | absent => exact fun d member => digits d (List.mem_cons_of_mem c member)
      | plus => exact digits
      | minus => exact digits

/-- Every integer literal is read as a real as well. -/
theorem DenotesInt.exists_real {cs : List Char} {n : Int} (h : DenotesInt cs n) :
    ∃ x, DenotesReal cs x := by
  cases h with
  | intro sign filled digits => exact ⟨_, .integral sign filled digits⟩

/-- Without a point the literal of a real is one of an integer. -/
theorem DenotesReal.exists_int {cs : List Char} {x : Float} (h : DenotesReal cs x)
    (point : '.' ∉ cs) : ∃ n, DenotesInt cs n := by
  cases h with
  | integral sign filled digits => exact ⟨_, .intro sign filled digits⟩
  | @pointed negative whole fraction sign _ _ =>
      have inside : '.' ∈ whole ++ '.' :: fraction :=
        List.mem_append_right whole List.mem_cons_self
      cases sign with
      | absent => exact absurd inside point
      | plus => exact absurd (List.mem_cons_of_mem _ inside) point
      | minus => exact absurd (List.mem_cons_of_mem _ inside) point

/-! ### The plain spelling -/

/-- The spelling of an integer that writing produces: without a plus sign, without a zero in front of
other digits, and without a sign in front of zero. -/
inductive IsPlain : List Char → Prop
  | zero : IsPlain ['0']
  | unsigned {d : Char} {r : List Char} (digit : d.isDigit = true) (filled : d ≠ '0') :
      IsPlain (d :: r)
  | minus {d : Char} {r : List Char} (digit : d.isDigit = true) (filled : d ≠ '0') :
      IsPlain ('-' :: d :: r)

theorem digitChar_of_isDigit {c : Char} (h : c.isDigit = true) :
    (c.toNat - 48).digitChar = c ∧ c.toNat - 48 < 10 := by
  rw [Char.isDigit, Bool.and_eq_true, decide_eq_true_eq, decide_eq_true_eq] at h
  have low : 48 ≤ c.toNat := h.1
  have high : c.toNat ≤ 57 := h.2
  have chars : ∀ k < 10, k.digitChar = Char.ofNat (48 + k) := by decide
  refine ⟨?_, by omega⟩
  rw [chars _ (by omega), Nat.add_sub_cancel' low, Char.ofNat_toNat]

theorem natOf_concat (ds : List Char) (c : Char) :
    natOf (ds ++ [c]) = 10 * natOf ds + (c.toNat - 48) := by
  rw [natOf, Nat.ofDigitChars_append, Nat.ofDigitChars_cons, Nat.ofDigitChars_nil]
  rfl

theorem placeValue_pos {d : Char} (digit : d.isDigit = true) (filled : d ≠ '0') (r : List Char) :
    0 < placeValue (d :: r) := by
  have leading : d.toNat - 48 ≠ 0 := by
    intro none
    have named := (digitChar_of_isDigit digit).1
    rw [none] at named
    exact filled named.symm
  have power : 0 < 10 ^ r.length := Nat.pow_pos (by decide)
  have product : 0 < (d.toNat - 48) * 10 ^ r.length :=
    Nat.mul_pos (Nat.pos_of_ne_zero leading) power
  rw [placeValue]
  exact Nat.lt_of_lt_of_le product (Nat.le_add_right _ _)

/-- Digits without a zero in front are those of the number that they denote. -/
theorem ofNat_natOf {d : Char} {r : List Char} (digits : ∀ c ∈ d :: r, c.isDigit = true)
    (filled : d ≠ '0') : ofNat (natOf (d :: r)) = d :: r := by
  have first : d.isDigit = true := digits d List.mem_cons_self
  induction r using List.reverseRecOn with
  | nil =>
      obtain ⟨named, small⟩ := digitChar_of_isDigit first
      have value : natOf [d] = d.toNat - 48 := by
        rw [← List.nil_append [d], natOf_concat]
        exact Nat.zero_add _
      rw [ofNat, value, Nat.toDigits_of_lt_base small, named]
  | append_singleton r c ih =>
      obtain ⟨named, small⟩ := digitChar_of_isDigit (digits c (by simp))
      have front := ih fun x member => digits x (by
        rw [← List.cons_append]
        exact List.mem_append_left _ member)
      have positive : 0 < natOf (d :: r) := by
        rw [natOf_eq_placeValue]
        exact placeValue_pos first filled r
      rw [← List.cons_append, natOf_concat, ofNat,
        ← Nat.toDigits_append_toDigits (by decide) positive small, Nat.toDigits_of_lt_base small,
        named, ← ofNat, front]

theorem isPlain_ofInt (n : Int) : IsPlain (ofInt n) := by
  cases n with
  | ofNat m =>
      obtain ⟨c, r, written, digit⟩ := exists_ofNat_eq_cons m
      by_cases zero : c = '0'
      · have alone : ofNat m = ['0'] := ofNat_of_head?_eq_zero (by rw [written, zero]; rfl)
        rw [ofInt, alone]
        exact .zero
      · rw [ofInt, written]
        exact .unsigned digit zero
  | negSucc m =>
      obtain ⟨c, r, written, digit⟩ := exists_ofNat_eq_cons (m + 1)
      have filled : c ≠ '0' := by
        intro zero
        have alone : ofNat (m + 1) = ['0'] := ofNat_of_head?_eq_zero (by rw [written, zero]; rfl)
        have denotes := natOf_ofNat (m + 1)
        rw [alone] at denotes
        cases denotes
      rw [ofInt, written]
      exact .minus digit filled

/-- A literal is what writing its integer produces exactly when it is spelled plainly. -/
theorem ofInt_eq_iff {cs : List Char} {n : Int} (h : DenotesInt cs n) :
    ofInt n = cs ↔ IsPlain cs := by
  constructor
  · rintro rfl
    exact isPlain_ofInt n
  · intro plain
    cases plain with
    | zero =>
        have zero : DenotesInt ['0'] 0 := int?_eq_some_iff.1 rfl
        rw [h.unique zero]
        rfl
    | unsigned digit filled =>
        cases h with
        | intro sign _ digits =>
            cases sign with
            | absent =>
                rw [← natOf_eq_placeValue]
                exact ofNat_natOf digits filled
            | plus => cases digit
            | minus => cases digit
    | @minus d r digit filled =>
        cases h with
        | intro sign _ digits =>
            cases sign with
            | absent => cases digits '-' List.mem_cons_self
            | minus =>
                have positive := placeValue_pos digit filled r
                obtain ⟨k, value⟩ := Nat.exists_eq_succ_of_ne_zero (Nat.ne_of_gt positive)
                have written := ofNat_natOf digits filled
                rw [natOf_eq_placeValue, value] at written
                rw [value, if_pos rfl]
                exact congrArg ('-' :: ·) written

end Fabricate.Decimal
