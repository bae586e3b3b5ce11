import ArrivalRates.Frequency
import Mathlib.Data.List.DropRight
import Mathlib.Data.List.Forall2
import Mathlib.Data.List.Induction
import Mathlib.Data.Nat.Digits.Defs

/-!
# The grammar of report frequencies

What can be written for a report frequency, without a word about how it is read: digits of any
script in groups that single underscores hold together, a sign in front of them, and blanks around
the whole. `Frequency.parse` takes exactly these texts, and what it makes of every other one names
the text without its blanks, or the integer if it was only too small.
-/

namespace ArrivalRates

namespace Text

/-! ### Digits -/

/-- A decimal digit of some script, and its value. -/
def IsDigit (c : Char) (value : Nat) : Prop :=
  value < 10 ∧ ∃ first ∈ digitZeros, c.toNat = first + value

theorem digitZeros_apart : ∀ first ∈ digitZeros, ∀ other ∈ digitZeros,
    first < other + 10 → other < first + 10 → first = other := by
  decide +kernel

theorem decimalDigit?_eq_some_iff {c : Char} {value : Nat} :
    decimalDigit? c = some value ↔ IsDigit c value := by
  rw [decimalDigit?, Option.map_eq_some_iff]
  constructor
  · rintro ⟨first, found, rfl⟩
    have inside := List.find?_some found
    rw [Bool.and_eq_true, decide_eq_true_eq, decide_eq_true_eq] at inside
    exact ⟨by omega, first, List.mem_of_find?_eq_some found, by omega⟩
  · rintro ⟨small, first, member, same⟩
    have inside : first ≤ c.toNat ∧ c.toNat < first + 10 := by omega
    cases found : digitZeros.find? fun first => first ≤ c.toNat && c.toNat < first + 10 with
    | none =>
      have outside := List.find?_eq_none.1 found first member
      simp [inside] at outside
    | some other =>
      have within := List.find?_some found
      rw [Bool.and_eq_true, decide_eq_true_eq, decide_eq_true_eq] at within
      obtain rfl := digitZeros_apart first member other (List.mem_of_find?_eq_some found)
        (by omega) (by omega)
      exact ⟨first, rfl, by omega⟩

theorem IsDigit.ne {c : Char} {value : Nat} (digit : IsDigit c value) {other : Char}
    (none : decimalDigit? other = none) : c ≠ other := by
  rintro rfl
  rw [decimalDigit?_eq_some_iff.2 digit] at none
  cases none

/-! ### Groups of digits -/

/-- Groups of digits with single underscores between them, and the values of the digits. -/
def IsDigitRun (cs : List Char) (values : List Nat) : Prop :=
  ∃ groups : List (List Char), groups ≠ [] ∧ (∀ group ∈ groups, group ≠ []) ∧
    cs = ['_'].intercalate groups ∧ List.Forall₂ IsDigit groups.flatten values

theorem intercalate_cons_group (c : Char) (group : List Char) (groups : List (List Char)) :
    ['_'].intercalate ((c :: group) :: groups) = c :: ['_'].intercalate (group :: groups) := by
  cases groups with
  | nil => simp only [List.intercalate_singleton]
  | cons => simp only [List.intercalate_cons_cons, List.cons_append]

theorem isDigitRun_of_digitRun {cs : List Char} {values : List Nat}
    (read : digitRun decimalDigit? cs = some values) : IsDigitRun cs values := by
  induction cs using digitRun.induct generalizing values with
  | case1 => cases read
  | case2 c =>
    obtain ⟨value, digit, rfl⟩ := Option.map_eq_some_iff.1 read
    exact ⟨[[c]], by simp, by simp, by simp, .cons (decimalDigit?_eq_some_iff.1 digit) .nil⟩
  | case3 c rest ih =>
    rw [digitRun.eq_3, Option.bind_eq_some_iff] at read
    obtain ⟨value, digit, read⟩ := read
    obtain ⟨later, following, rfl⟩ := Option.map_eq_some_iff.1 read
    obtain ⟨groups, some, nonempty, rfl, digits⟩ := ih following
    refine ⟨[c] :: groups, by simp, by simpa using nonempty, ?_,
      .cons (decimalDigit?_eq_some_iff.1 digit) digits⟩
    rw [List.intercalate_cons_of_ne_nil some]
    rfl
  | case4 c rest more apart ih =>
    rw [digitRun.eq_4 _ _ _ more apart, Option.bind_eq_some_iff] at read
    obtain ⟨value, digit, read⟩ := read
    obtain ⟨later, following, rfl⟩ := Option.map_eq_some_iff.1 read
    obtain ⟨groups, some, nonempty, rfl, digits⟩ := ih following
    cases groups with
    | nil => contradiction
    | cons group groups =>
      refine ⟨(c :: group) :: groups, by simp, ?_, (intercalate_cons_group ..).symm,
        .cons (decimalDigit?_eq_some_iff.1 digit) digits⟩
      simp only [List.forall_mem_cons] at nonempty ⊢
      exact ⟨List.cons_ne_nil c group, nonempty.2⟩

theorem digitRun_cons {c next : Char} {value other : Nat} {rest : List Char} {values : List Nat}
    (digit : IsDigit c value) (second : IsDigit next other)
    (read : digitRun decimalDigit? (next :: rest) = some values) :
    digitRun decimalDigit? (c :: next :: rest) = some (value :: values) := by
  have apart : ∀ tail, next :: rest = '_' :: tail → False :=
    fun tail same => second.ne rfl (List.cons.inj same).1
  rw [digitRun.eq_4 _ _ _ (List.cons_ne_nil next rest) apart, decimalDigit?_eq_some_iff.2 digit,
    read]
  rfl

/-- The induction is on the groups, and in each of them on its digits. -/
theorem digitRun_intercalate {c : Char} {group : List Char} {groups : List (List Char)}
    {values : List Nat} (nonempty : ∀ group ∈ groups, group ≠ [])
    (digits : List.Forall₂ IsDigit ((c :: group) :: groups).flatten values) :
    digitRun decimalDigit? (['_'].intercalate ((c :: group) :: groups)) = some values := by
  induction groups generalizing c group values with
  | nil =>
    rw [List.flatten_singleton] at digits
    rw [List.intercalate_singleton]
    induction group generalizing c values with
    | nil =>
      obtain ⟨value, _, digit, none, rfl⟩ := List.forall₂_cons_left_iff.1 digits
      obtain rfl := List.forall₂_nil_left_iff.1 none
      exact congrArg (Option.map _) (decimalDigit?_eq_some_iff.2 digit)
    | cons next group ih =>
      obtain ⟨value, _, digit, later, rfl⟩ := List.forall₂_cons_left_iff.1 digits
      obtain ⟨_, _, second, -, rfl⟩ := List.forall₂_cons_left_iff.1 later
      exact digitRun_cons digit second (ih later)
  | cons following groups ih =>
    obtain ⟨first, others⟩ := List.forall_mem_cons.1 nonempty
    obtain ⟨d, ds, rfl⟩ := List.exists_cons_of_ne_nil first
    induction group generalizing c values with
    | nil =>
      obtain ⟨value, _, digit, later, rfl⟩ := List.forall₂_cons_left_iff.1 digits
      rw [List.intercalate_cons_cons]
      show digitRun decimalDigit? (c :: '_' :: ['_'].intercalate ((d :: ds) :: groups)) = _
      rw [digitRun.eq_3, decimalDigit?_eq_some_iff.2 digit, ih others later]
      rfl
    | cons next group again =>
      obtain ⟨value, _, digit, later, rfl⟩ := List.forall₂_cons_left_iff.1 digits
      obtain ⟨_, _, second, -, rfl⟩ := List.forall₂_cons_left_iff.1 later
      have read := again later
      rw [intercalate_cons_group] at read
      rw [intercalate_cons_group, intercalate_cons_group]
      exact digitRun_cons digit second read

theorem digitRun_eq_some_iff {cs : List Char} {values : List Nat} :
    digitRun decimalDigit? cs = some values ↔ IsDigitRun cs values := by
  refine ⟨isDigitRun_of_digitRun, ?_⟩
  rintro ⟨groups, some, nonempty, rfl, digits⟩
  cases groups with
  | nil => contradiction
  | cons group groups =>
    obtain ⟨first, others⟩ := List.forall_mem_cons.1 nonempty
    cases group with
    | nil => contradiction
    | cons c group => exact digitRun_intercalate others digits

/-! ### Integers -/

/-- An integer of so many digits at most: a sign or none, and digits of any script in groups. -/
def IsInteger (cs : List Char) (n : Int) : Prop :=
  ∃ (sign digits : List Char) (values : List Nat), cs = sign ++ digits ∧ IsDigitRun digits values ∧
    values.length ≤ 4300 ∧
    ((sign = [] ∨ sign = ['+']) ∧ n = (Nat.ofDigits 10 values.reverse : Nat) ∨
      sign = ['-'] ∧ n = -(Nat.ofDigits 10 values.reverse : Nat))

theorem ofDigits_eq (values : List Nat) : ofDigits values = Nat.ofDigits 10 values.reverse := by
  induction values using List.reverseRecOn with
  | nil => rfl
  | append_singleton values value ih =>
    rw [ofDigits, List.foldl_concat, ← ofDigits, ih, List.reverse_concat, Nat.ofDigits_cons,
      Nat.add_comm]

theorem IsDigitRun.head {digits : List Char} {values : List Nat}
    (run : IsDigitRun digits values) :
    ∃ c value rest, IsDigit c value ∧ digits = c :: rest := by
  obtain ⟨groups, some, nonempty, rfl, numbers⟩ := run
  cases groups with
  | nil => contradiction
  | cons group groups =>
    cases group with
    | nil => exact absurd rfl (nonempty [] List.mem_cons_self)
    | cons c group =>
      obtain ⟨value, _, digit, -, -⟩ := List.forall₂_cons_left_iff.1 numbers
      exact ⟨c, value, _, digit, intercalate_cons_group ..⟩

theorem splitSign_spec (cs : List Char) :
    ∃ sign, cs = sign ++ (splitSign cs).2 ∧
      ((splitSign cs).1 = false ∧ (sign = [] ∨ sign = ['+']) ∨
        (splitSign cs).1 = true ∧ sign = ['-']) := by
  unfold splitSign
  split
  · exact ⟨['-'], rfl, .inr ⟨rfl, rfl⟩⟩
  · exact ⟨['+'], rfl, .inl ⟨rfl, .inr rfl⟩⟩
  · exact ⟨[], rfl, .inl ⟨rfl, .inl rfl⟩⟩

theorem splitSign_of_digit {c : Char} {value : Nat} (digit : IsDigit c value) (rest : List Char) :
    splitSign (c :: rest) = (false, c :: rest) := by
  unfold splitSign
  split
  next same => exact absurd (List.cons.inj same).1 (digit.ne rfl)
  next same => exact absurd (List.cons.inj same).1 (digit.ne rfl)
  · rfl

theorem integer?_eq (cs : List Char) :
    integer? cs = (digitRun decimalDigit? (splitSign cs).2).bind fun digits =>
      if digits.length ≤ maxDigits then some (signed (splitSign cs).1 (ofDigits digits))
      else none :=
  rfl

theorem integer?_eq_some_iff {cs : List Char} {n : Int} :
    integer? cs = some n ↔ IsInteger cs n := by
  rw [integer?_eq, Option.bind_eq_some_iff]
  constructor
  · rintro ⟨values, run, read⟩
    rw [Option.ite_none_right_eq_some] at read
    obtain ⟨short, value⟩ := read
    obtain rfl := Option.some.inj value
    obtain ⟨sign, same, signs⟩ := splitSign_spec cs
    refine ⟨sign, _, values, same, digitRun_eq_some_iff.1 run, short, ?_⟩
    rw [ofDigits_eq]
    rcases signs with ⟨plain, here⟩ | ⟨minus, here⟩
    · rw [plain]
      exact .inl ⟨here, rfl⟩
    · rw [minus]
      exact .inr ⟨here, rfl⟩
  · rintro ⟨sign, digits, values, rfl, run, short, value⟩
    obtain ⟨c, _, rest, digit, rfl⟩ := run.head
    have plain := splitSign_of_digit digit rest
    have read := digitRun_eq_some_iff.2 run
    refine ⟨values, ?_, ?_⟩
    · rcases value with ⟨rfl | rfl, -⟩ | ⟨rfl, -⟩
      · rwa [List.nil_append, plain]
      · exact read
      · exact read
    · have few : values.length ≤ maxDigits := short
      rw [if_pos few, ofDigits_eq]
      rcases value with ⟨rfl | rfl, rfl⟩ | ⟨rfl, rfl⟩
      · rw [List.nil_append, plain]
        rfl
      · rfl
      · rfl

theorem IsInteger.head {cs : List Char} {n : Int} (integer : IsInteger cs n) :
    ∃ c rest, cs = c :: rest ∧ (c = '+' ∨ c = '-' ∨ (decimalDigit? c).isSome) := by
  obtain ⟨sign, digits, values, rfl, run, -, signs⟩ := integer
  rcases signs with ⟨rfl | rfl, -⟩ | ⟨rfl, -⟩
  · obtain ⟨c, value, rest, digit, rfl⟩ := run.head
    exact ⟨c, rest, rfl, .inr (.inr (by rw [decimalDigit?_eq_some_iff.2 digit]; rfl))⟩
  · exact ⟨'+', digits, rfl, .inl rfl⟩
  · exact ⟨'-', digits, rfl, .inr (.inl rfl)⟩

theorem isDigit_digitChar {d : Nat} (small : d < 10) : IsDigit d.digitChar d := by
  have point : ∀ d < 10, d.digitChar.toNat = 0x30 + d := by decide
  exact ⟨small, 0x30, List.mem_cons_self, point d small⟩

/-- The decimal digits of a number have its value. -/
theorem forall₂_toDigits (n : Nat) :
    ∃ values, List.Forall₂ IsDigit (Nat.toDigits 10 n) values ∧
      Nat.ofDigits 10 values.reverse = n := by
  induction n using Nat.strong_induction_on with
  | h n ih =>
    rw [Nat.toDigits_eq_if (by decide)]
    split
    next small => exact ⟨[n], .cons (isDigit_digitChar small) .nil, Nat.ofDigits_singleton⟩
    next large =>
      obtain ⟨values, digits, value⟩ := ih (n / 10) (by omega)
      have last := isDigit_digitChar (Nat.mod_lt n (by decide : 0 < 10))
      refine ⟨values ++ [n % 10], List.rel_append digits (.cons last .nil), ?_⟩
      rw [List.reverse_concat, Nat.ofDigits_cons, value]
      exact Nat.mod_add_div n 10

theorem toList_integerText (n : Nat) : (integerText n).toList = Nat.toDigits 10 n := by
  have some : 1 ≤ (Nat.toDigits 10 n).length := List.length_pos_iff.2 Nat.toDigits_ne_nil
  rw [integerText, if_neg (by omega), padded, Int.natAbs_natCast, String.toList_ofList,
    Nat.sub_eq_zero_of_le some]
  rfl

theorem isInteger_integerText {n : Nat} (few : (integerText n).length ≤ 4300) :
    IsInteger (integerText n).toList n := by
  obtain ⟨values, digits, value⟩ := forall₂_toDigits n
  rw [← String.length_toList, toList_integerText] at few
  rw [toList_integerText]
  have run : IsDigitRun (Nat.toDigits 10 n) values :=
    ⟨[Nat.toDigits 10 n], by simp, by simp, List.intercalate_singleton.symm,
      by rwa [List.flatten_singleton]⟩
  exact ⟨[], _, values, rfl, run, digits.length_eq ▸ few, .inl ⟨.inl rfl, by rw [value]⟩⟩

/-! ### Blanks -/

def IsBody (text body : List Char) : Prop :=
  ∃ before after, text = before ++ body ++ after ∧ (∀ c ∈ before, isBlank c) ∧
    (∀ c ∈ after, isBlank c) ∧ (∀ c ∈ body.head?, ¬isBlank c) ∧ ∀ c ∈ body.getLast?, ¬isBlank c

theorem strip_eq (drop : Char → Bool) (text : List Char) :
    strip drop text = (text.dropWhile drop).rdropWhile drop :=
  rfl

theorem isBody_strip (text : List Char) : IsBody text (strip isBlank text) := by
  rw [strip_eq]
  refine ⟨text.takeWhile isBlank, (text.dropWhile isBlank).rtakeWhile isBlank, ?_,
    fun c member => List.mem_takeWhile_imp member,
    fun c member => List.mem_rtakeWhile_imp member, ?_, ?_⟩
  · rw [List.append_assoc, List.rdropWhile_append_rtakeWhile, List.takeWhile_append_dropWhile]
  · intro c first
    obtain ⟨rest, same⟩ := List.rdropWhile_prefix isBlank (text.dropWhile isBlank)
    have shown : (text.dropWhile isBlank).head? = some c := by
      rw [← same, List.head?_append, first]
      rfl
    have visible := List.head?_dropWhile_not isBlank text
    rw [shown] at visible
    exact Bool.eq_false_iff.1 visible
  · intro c last
    obtain ⟨nonempty, rfl⟩ := List.mem_getLast?_eq_getLast last
    exact List.rdropWhile_last_not isBlank _ nonempty

theorem strip_eq_iff {text body : List Char} : strip isBlank text = body ↔ IsBody text body := by
  refine ⟨fun same => same ▸ isBody_strip text, ?_⟩
  rintro ⟨before, after, rfl, blank, blank', first, last⟩
  have tail : ∀ cs, (cs ++ after).rdropWhile isBlank = cs.rdropWhile isBlank := by
    intro cs
    have reversed : ∀ c ∈ after.reverse, isBlank c := by
      intro c member
      exact blank' c (List.mem_reverse.1 member)
    rw [List.rdropWhile, List.reverse_append, List.dropWhile_append_of_pos reversed]
    rfl
  have whole : body.rdropWhile isBlank = body := by
    rw [List.rdropWhile_eq_self_iff]
    intro nonempty
    exact last _ (List.getLast?_eq_some_getLast nonempty)
  rw [strip_eq, List.append_assoc, List.dropWhile_append_of_pos blank]
  cases body with
  | nil => rw [List.nil_append, List.dropWhile_eq_nil_iff.2 blank', List.rdropWhile_nil]
  | cons c rest =>
    rw [List.cons_append, List.dropWhile_cons_of_neg (first c rfl), ← List.cons_append, tail,
      whole]

theorem isBody_nil_iff {text : List Char} : IsBody text [] ↔ ∀ c ∈ text, isBlank c := by
  constructor
  · rintro ⟨before, after, rfl, blank, blank', -, -⟩ c member
    rw [List.append_nil] at member
    exact (List.mem_append.1 member).elim (blank c) (blank' c)
  · intro blank
    exact ⟨text, [], by simp, blank, by simp, by simp, by simp⟩

theorem not_isBlank_of_isDigit {c : Char} (digit : c.isDigit) : ¬isBlank c := by
  rw [Char.isDigit, Bool.and_eq_true, decide_eq_true_eq, decide_eq_true_eq] at digit
  have range : 48 ≤ c.toNat ∧ c.toNat ≤ 57 := digit
  simp [isBlank, isWhiteSpace]
  omega

end Text

/-! ### Frequencies -/

namespace Frequency

open Text

/-- The word for months, in letters of either case. -/
def IsMonthly (body : List Char) : Prop :=
  List.Forall₂ (fun letter c => c = letter ∨ c = letter.toUpper) "monthly".toList body

theorem toLower_eq_iff {letter c : Char} (lower : letter.isLower) :
    c.toLower = letter ↔ c = letter ∨ c = letter.toUpper := by
  have small : (decide (letter.val ≥ 'a'.val) && decide (letter.val ≤ 'z'.val)) = true := lower
  rw [Bool.and_eq_true, decide_eq_true_eq, decide_eq_true_eq] at small
  have small' : 97 ≤ letter.val.toNat ∧ letter.val.toNat ≤ 122 := small
  have down : ('a'.val - 'A'.val).toNat = 32 := by decide
  have up : ('A'.val - 'a'.val).toNat = 2 ^ 32 - 32 := by decide
  unfold Char.toLower Char.toUpper
  rw [dif_pos small]
  split
  next capital =>
    have capital' : 65 ≤ c.val.toNat ∧ c.val.toNat ≤ 90 := capital
    simp only [Char.ext_iff, ← UInt32.toNat_inj, UInt32.toNat_add, down, up]
    omega
  next other =>
    have other' : ¬(65 ≤ c.val.toNat ∧ c.val.toNat ≤ 90) := other
    simp only [Char.ext_iff, ← UInt32.toNat_inj, UInt32.toNat_add, up]
    omega

theorem map_toLower_eq_iff {body : List Char} :
    body.map Char.toLower = "monthly".toList ↔ IsMonthly body := by
  have lower : ∀ letter ∈ "monthly".toList, letter.isLower := List.all_eq_true.1 (by decide)
  rw [eq_comm, ← List.forall₂_eq_eq_eq, List.forall₂_map_right_iff]
  constructor
  · intro same
    refine ((List.forall₂_and_left _ _).2 ⟨lower, same⟩).imp fun letter c both => ?_
    exact (toLower_eq_iff both.1).1 both.2.symm
  · intro word
    refine ((List.forall₂_and_left _ _).2 ⟨lower, word⟩).imp fun letter c both => ?_
    exact ((toLower_eq_iff both.1).2 both.2).symm

theorem IsMonthly.not_isInteger {body : List Char} (word : IsMonthly body) (n : Int) :
    ¬IsInteger body n := by
  intro integer
  obtain ⟨c, rest, rfl, starts⟩ := integer.head
  obtain ⟨first, -⟩ := List.forall₂_cons.1 word
  rcases first with rfl | rfl <;> exact absurd starts (by decide)

/-- What a text without blanks at its ends stands for. -/
inductive Reads (body : List Char) : Except Failure Frequency → Prop where
  | nothing (empty : body = []) : Reads body (.ok (.days 10))
  | word (word : IsMonthly body) : Reads body (.ok .monthly)
  | count {count : Int} (integer : IsInteger body count) (positive : 1 ≤ count) :
      Reads body (.ok (.days count))
  | tooSmall {count : Int} (integer : IsInteger body count) (small : count < 1) :
      Reads body (.error (.nonPositiveFrequency count))
  | unreadable (some : body ≠ []) (other : ¬IsMonthly body)
      (none : ∀ count, ¬IsInteger body count) :
      Reads body (.error (.invalidFrequency (String.ofList body)))

theorem reads_parse {text : Option String} {body : List Char}
    (same : IsBody (text.getD "").toList body) : Reads body (parse text) := by
  unfold parse
  rw [strip_eq_iff.2 same]
  dsimp only
  split
  next empty => exact .nothing (List.isEmpty_iff.1 empty)
  next some =>
    rw [List.isEmpty_iff] at some
    split
    next word => exact .word (map_toLower_eq_iff.1 word)
    next other =>
      rw [map_toLower_eq_iff] at other
      split
      next none =>
        refine .unreadable some other fun count integer => ?_
        rw [integer?_eq_some_iff.2 integer] at none
        cases none
      next count read =>
        have integer := integer?_eq_some_iff.1 read
        split
        next small => exact .tooSmall integer small
        next positive => exact .count integer (Int.not_lt.1 positive)

theorem Reads.unique {body : List Char} {result other : Except Failure Frequency}
    (reads : Reads body result) (reads' : Reads body other) : result = other := by
  have word : ∀ {n}, IsMonthly body → ¬IsInteger body n := fun word => word.not_isInteger _
  have empty : ∀ {n}, body = [] → ¬IsInteger body n := by
    rintro n rfl integer
    obtain ⟨_, _, same, -⟩ := integer.head
    cases same
  have empty' : body = [] → ¬IsMonthly body := by
    rintro rfl word
    cases word
  have value : ∀ {m n}, IsInteger body m → IsInteger body n → m = n := by
    intro m n one two
    exact Option.some.inj ((integer?_eq_some_iff.2 one).symm.trans (integer?_eq_some_iff.2 two))
  cases reads <;> cases reads' <;> grind

theorem parse_eq_iff {text : Option String} {body : List Char}
    (same : IsBody (text.getD "").toList body) {result : Except Failure Frequency} :
    parse text = result ↔ Reads body result :=
  ⟨fun parsed => parsed ▸ reads_parse same, fun reads => (reads_parse same).unique reads⟩

/-- Every text has a body, its part between the blanks at its ends, and the body decides: nothing
stands for ten days, the word for months, an integer from one on for so many days. Any other text is
refused, with the integer if there is one and with the body if not. So a number is read back from
its decimal text, as long as that is not too long. -/
theorem parse_grammar :
    (∀ text : Option String, ∃ body, IsBody (text.getD "").toList body) ∧
    (∀ (text : Option String) (body : List Char), IsBody (text.getD "").toList body →
      (body = [] ↔ ∀ written ∈ text, ∀ c ∈ written.toList, isBlank c) ∧
      (parse text = .ok .monthly ↔ IsMonthly body) ∧
      (∀ count, parse text = .ok (.days count) ↔
        body = [] ∧ count = 10 ∨ IsInteger body count ∧ 1 ≤ count) ∧
      (∀ failure, parse text = .error failure ↔
        (∃ count < 1, IsInteger body count ∧ failure = .nonPositiveFrequency count) ∨
          body ≠ [] ∧ ¬IsMonthly body ∧ (∀ count, ¬IsInteger body count) ∧
            failure = .invalidFrequency (String.ofList body)) ∧
      (∀ failure, parse text = .error failure →
        (∃ count, IsInteger body count ∧
          failure.message = "Report frequency in days must be positive: " ++ integerText count) ∨
        (∀ count, ¬IsInteger body count) ∧
          failure.message = "Invalid report frequency: " ++ quoted (String.ofList body))) ∧
    ∀ (n : Nat) (before after : String), 1 ≤ n → (integerText n).length ≤ 4300 →
      (∀ c ∈ before.toList, isBlank c) → (∀ c ∈ after.toList, isBlank c) →
      parse (some (before ++ integerText n ++ after)) = .ok (.days n) := by
  refine ⟨fun text => ⟨_, isBody_strip _⟩, ?_, ?_⟩
  · intro text body same
    simp only [parse_eq_iff same]
    refine ⟨?_, ?_, ?_, ?_, ?_⟩
    · rw [← strip_eq_iff.2 same, strip_eq_iff, isBody_nil_iff]
      cases text <;> simp
    · constructor
      · intro reads
        cases reads with
        | word word => exact word
      · exact .word
    · intro count
      constructor
      · intro reads
        cases reads with
        | nothing empty => exact .inl ⟨empty, rfl⟩
        | count integer positive => exact .inr ⟨integer, positive⟩
      · rintro (⟨empty, rfl⟩ | ⟨integer, positive⟩)
        · exact .nothing empty
        · exact .count integer positive
    · intro failure
      constructor
      · intro reads
        cases reads with
        | tooSmall integer small => exact .inl ⟨_, small, integer, rfl⟩
        | unreadable some other none => exact .inr ⟨some, other, none, rfl⟩
      · rintro (⟨count, small, integer, rfl⟩ | ⟨some, other, none, rfl⟩)
        · exact .tooSmall integer small
        · exact .unreadable some other none
    · intro failure reads
      cases reads with
      | tooSmall integer small => exact .inl ⟨_, integer, rfl⟩
      | unreadable some other none => exact .inr ⟨none, rfl⟩
  · intro n before after positive few blank blank'
    have integer := isInteger_integerText few
    have shown : ∀ c ∈ (integerText n).toList, ¬isBlank c := by
      intro c member
      rw [toList_integerText] at member
      exact not_isBlank_of_isDigit (Nat.isDigit_of_mem_toDigits (by decide) (by decide) member)
    have same : IsBody ((some (before ++ integerText n ++ after)).getD "").toList
        (integerText n).toList := by
      refine ⟨before.toList, after.toList, ?_, blank, blank', ?_, ?_⟩
      · rw [Option.getD_some, String.toList_append, String.toList_append]
      · exact fun c first => shown c (List.mem_of_head? first)
      · exact fun c last => shown c (List.mem_of_getLast? last)
    exact (parse_eq_iff same).2 (.count integer (by omega))

theorem parse_grammar_padded :
    let text := " +1_0٣\t"
    let body := "+1_0٣".toList
    IsBody text.toList body ∧ IsInteger body 103 ∧ parse (some text) = .ok (.days 103) ∧
      (integerText (7 : Nat)).length ≤ 4300 ∧ (∀ c ∈ " \n".toList, isBlank c) ∧
      parse (some (" \n" ++ integerText (7 : Nat) ++ "")) = .ok (.days 7) := by
  intro text body
  have same : IsBody text.toList body := strip_eq_iff.1 (by decide +kernel)
  have integer : IsInteger body 103 := integer?_eq_some_iff.1 (by decide +kernel)
  have few : (integerText (7 : Nat)).length ≤ 4300 := by decide +kernel
  have blank : ∀ c ∈ " \n".toList, isBlank c := List.all_eq_true.1 (by decide +kernel)
  obtain ⟨-, reading, printed⟩ := parse_grammar
  obtain ⟨-, -, days, -⟩ := reading (some text) body same
  exact ⟨same, integer, (days 103).2 (.inr ⟨integer, by decide⟩), few, blank,
    printed 7 " \n" "" (by decide) few blank (List.all_eq_true.1 rfl)⟩

end Frequency

end ArrivalRates
