import MemberAuth.Proofs.Password.Policy

/-!
# What is said of a password

The verdict on a password as a relation: which rule it breaks first, whatever way that is found out.
Of a birth date only the month and the day are in it. The forms with a year end in the same four
digits, whatever the year looks like, so they refuse nothing that those digits let through.
-/
namespace MemberAuth.Policy

open Text

/-- Two digits for the month and two for the day. -/
def monthDay (month day : Nat) : List Char :=
  [month / 10, month % 10, day / 10, day % 10].map Nat.digitChar

/-- The first thing that the character rule has against a password. -/
inductive Objection : CharacterRule → List Char → PolicyViolation → Prop
  | missing {cs k before after}
    (order : [.uppercase, .lowercase, .digit, .symbol] = before ++ k :: after)
    (there : ∀ j ∈ before, ∃ c ∈ cs, j.has c = true) (absent : ∀ c ∈ cs, k.has c = false) :
    Objection .requireAllClasses cs (.missingClass k)
  | refused {c before after} (allowed : ∀ d ∈ before, isAllowed d = true)
    (other : isAllowed c = false) :
    Objection .allowedSymbolsOnly (before ++ c :: after) (.invalidCharacter c)

/-- The verdict on a password of somebody who was born on this day of this month. -/
inductive Judged (rule : CharacterRule) (month day : Nat) (cs : List Char) :
    Except PolicyViolation Unit → Prop
  | tooShort (length : cs.length < 8) : Judged rule month day cs (.error (.tooShort 8 cs.length))
  | tooLong (length : 16 < cs.length) : Judged rule month day cs (.error (.tooLong 16 cs.length))
  | objection {violation} (length : 8 ≤ cs.length ∧ cs.length ≤ 16)
    (first : Objection rule cs violation) : Judged rule month day cs (.error violation)
  | birthday (length : 8 ≤ cs.length ∧ cs.length ≤ 16)
    (characters : ∀ violation, ¬ Objection rule cs violation)
    (occurs : monthDay month day <:+: cs) : Judged rule month day cs (.error .containsBirthday)
  | accepted (length : 8 ≤ cs.length ∧ cs.length ≤ 16)
    (characters : ∀ violation, ¬ Objection rule cs violation)
    (absent : ¬ monthDay month day <:+: cs) : Judged rule month day cs (.ok ())

section Checks

variable {cs : List Char} {violation : PolicyViolation}

theorem checkLength_eq_error :
    checkLength cs = .error violation ↔
      cs.length < 8 ∧ violation = .tooShort 8 cs.length ∨
        16 < cs.length ∧ violation = .tooLong 16 cs.length := by
  rw [checkLength, minLength, maxLength]
  split
  · rename_i short
    have fits : ¬ 16 < cs.length := by omega
    simp [short, fits, eq_comm]
  rename_i enough
  split
  · rename_i long
    simp [enough, long, eq_comm]
  · rename_i fits
    simp [enough, fits]

theorem checkClasses_eq_error :
    checkClasses cs = .error violation ↔ Objection .requireAllClasses cs violation := by
  rw [checkClasses]
  constructor
  · intro refused
    split at refused
    · rename_i k first
      cases refused
      obtain ⟨absent, before, after, order, there⟩ := List.find?_eq_some_iff_append.mp first
      refine .missing order ?_ ?_
      · simpa using there
      · simpa using absent
    · cases refused
  · intro objection
    cases objection with
    | @missing _ k before after order there absent =>
      have first : CharacterClass.all.find? (fun k => !cs.any k.has) = some k := by
        refine List.find?_eq_some_iff_append.mpr ⟨?_, before, after, order, ?_⟩
        · simpa using absent
        · simpa using there
      rw [first]

theorem checkAllowed_eq_error :
    checkAllowed cs = .error violation ↔ Objection .allowedSymbolsOnly cs violation := by
  rw [checkAllowed]
  constructor
  · intro refused
    split at refused
    · rename_i c first
      cases refused
      obtain ⟨other, before, after, rfl, allowed⟩ := List.find?_eq_some_iff_append.mp first
      refine .refused ?_ ?_
      · simpa using allowed
      · simpa using other
    · cases refused
  · intro objection
    cases objection with
    | @refused c before after allowed other =>
      have first : (before ++ c :: after).find? (fun c => !isAllowed c) = some c := by
        refine List.find?_eq_some_iff_append.mpr ⟨?_, before, after, rfl, ?_⟩
        · simpa using other
        · simpa using allowed
      rw [first]

theorem checkCharacters_eq_error {rule : CharacterRule} :
    checkCharacters rule cs = .error violation ↔ Objection rule cs violation := by
  cases rule with
  | requireAllClasses => exact checkClasses_eq_error
  | allowedSymbolsOnly => exact checkAllowed_eq_error

theorem padded_two {n : Nat} (h : n < 10 ^ 2) :
    padded 2 n = [Nat.digitChar (n / 10), Nat.digitChar (n % 10)] := by
  rw [padded, decimal]
  by_cases single : n < 10
  · rw [Nat.toDigits_of_lt_base single, Nat.div_eq_of_lt single, Nat.mod_eq_of_lt single]
    rfl
  · rw [Nat.toDigits_eq_if (by decide), if_neg single, Nat.toDigits_of_lt_base (by omega)]
    rfl

/-- All three forms end in month and day, and the last one is nothing more. -/
theorem any_birthdayForms (birthDate : Date) (cs : List Char) :
    (birthdayForms birthDate).any (occursIn · cs) = true ↔
      monthDay birthDate.month birthDate.day <:+: cs := by
  have last : padded 2 birthDate.month ++ padded 2 birthDate.day =
      monthDay birthDate.month birthDate.day := by
    rw [padded_two birthDate.month_lt, padded_two birthDate.day_lt]
    rfl
  have longer (year : List Char) (occurs : year ++ monthDay birthDate.month birthDate.day <:+: cs) :
      monthDay birthDate.month birthDate.day <:+: cs :=
    (List.suffix_append _ _).isInfix.trans occurs
  simp only [birthdayForms, last, List.any_cons, List.any_nil, Bool.or_false, Bool.or_eq_true,
    occursIn_iff_infix]
  constructor
  · rintro (occurs | occurs | occurs)
    · exact longer _ occurs
    · exact longer _ occurs
    · exact occurs
  · exact fun occurs => Or.inr (Or.inr occurs)

theorem checkBirthday_eq_error {birthDate : Date} :
    checkBirthday birthDate cs = .error violation ↔
      monthDay birthDate.month birthDate.day <:+: cs ∧ violation = .containsBirthday := by
  rw [checkBirthday, ← any_birthdayForms]
  split
  · rename_i occurs
    simp [occurs, eq_comm]
  · rename_i absent
    simp [absent]

end Checks

section Verdict

variable {rule : CharacterRule} {birthDate : Date} {password : String}

theorem validate_eq_error {violation : PolicyViolation} :
    validate rule birthDate password = .error violation ↔
      checkLength password.toList = .error violation ∨
        checkLength password.toList = .ok () ∧
          (checkCharacters rule password.toList = .error violation ∨
            checkCharacters rule password.toList = .ok () ∧
              checkBirthday birthDate password.toList = .error violation) := by
  simp only [validate, bind_eq_error]
  constructor
  · rintro (length | ⟨_, length, characters | ⟨_, characters, birthday⟩⟩)
    · exact Or.inl length
    · exact Or.inr ⟨length, Or.inl characters⟩
    · exact Or.inr ⟨length, Or.inr ⟨characters, birthday⟩⟩
  · rintro (length | ⟨length, characters | ⟨characters, birthday⟩⟩)
    · exact Or.inl length
    · exact Or.inr ⟨(), length, Or.inl characters⟩
    · exact Or.inr ⟨(), length, Or.inr ⟨(), characters, birthday⟩⟩

/-- A check passes unless it objects to something. -/
theorem eq_ok_iff {x : Except PolicyViolation Unit} {objects : PolicyViolation → Prop}
    (h : ∀ violation, x = .error violation ↔ objects violation) :
    x = .ok () ↔ ∀ violation, ¬ objects violation := by
  simp only [← h]
  cases x with
  | error violation => simp
  | ok _ => simp

theorem checkCharacters_eq_ok {cs : List Char} :
    checkCharacters rule cs = .ok () ↔ ∀ violation, ¬ Objection rule cs violation :=
  eq_ok_iff fun _ => checkCharacters_eq_error

theorem checkBirthday_eq_ok {cs : List Char} :
    checkBirthday birthDate cs = .ok () ↔ ¬ monthDay birthDate.month birthDate.day <:+: cs := by
  rw [eq_ok_iff fun _ => checkBirthday_eq_error]
  simp

theorem judged_validate (rule : CharacterRule) (birthDate : Date) (password : String) :
    Judged rule birthDate.month birthDate.day password.toList
      (validate rule birthDate password) := by
  generalize told : validate rule birthDate password = result
  cases result with
  | ok _ =>
    obtain ⟨length, characters, birthday⟩ := validate_eq_ok.mp told
    exact .accepted (checkLength_eq_ok.mp length) (checkCharacters_eq_ok.mp characters)
      (checkBirthday_eq_ok.mp birthday)
  | error violation =>
    rcases validate_eq_error.mp told with length | ⟨length, refused⟩
    · rcases checkLength_eq_error.mp length with ⟨short, rfl⟩ | ⟨long, rfl⟩
      · exact .tooShort short
      · exact .tooLong long
    have fits := checkLength_eq_ok.mp length
    rcases refused with characters | ⟨characters, birthday⟩
    · exact .objection fits (checkCharacters_eq_error.mp characters)
    · obtain ⟨occurs, rfl⟩ := checkBirthday_eq_error.mp birthday
      exact .birthday fits (checkCharacters_eq_ok.mp characters) occurs

theorem Judged.validate_eq {result : Except PolicyViolation Unit}
    (h : Judged rule birthDate.month birthDate.day password.toList result) :
    validate rule birthDate password = result := by
  cases h with
  | tooShort short =>
    exact validate_eq_error.mpr (Or.inl (checkLength_eq_error.mpr (Or.inl ⟨short, rfl⟩)))
  | tooLong long =>
    exact validate_eq_error.mpr (Or.inl (checkLength_eq_error.mpr (Or.inr ⟨long, rfl⟩)))
  | objection length first =>
    exact validate_eq_error.mpr
      (Or.inr ⟨checkLength_eq_ok.mpr length, Or.inl (checkCharacters_eq_error.mpr first)⟩)
  | birthday length characters occurs =>
    exact validate_eq_error.mpr (Or.inr ⟨checkLength_eq_ok.mpr length,
      Or.inr ⟨checkCharacters_eq_ok.mpr characters, checkBirthday_eq_error.mpr ⟨occurs, rfl⟩⟩⟩)
  | accepted length characters absent =>
    exact validate_eq_ok.mpr ⟨checkLength_eq_ok.mpr length, checkCharacters_eq_ok.mpr characters,
      checkBirthday_eq_ok.mpr absent⟩

/-- The policy gives the verdict that the rules call for, in their order. It is the same for all
birth dates with this month and this day, whatever their years. -/
theorem judges_exactly (rule : CharacterRule) (birthDate : Date) (password : String) :
    (∀ result, validate rule birthDate password = result ↔
        Judged rule birthDate.month birthDate.day password.toList result) ∧
      ∀ other : Date, other.month = birthDate.month → other.day = birthDate.day →
        validate rule other password = validate rule birthDate password := by
  refine ⟨fun result => ⟨?_, Judged.validate_eq⟩, ?_⟩
  · rintro rfl
    exact judged_validate rule birthDate password
  · intro other month day
    have judged := judged_validate rule birthDate password
    rw [← month, ← day] at judged
    exact judged.validate_eq

/-- The same day before the year zero, and in a year of six digits. -/
theorem judges_exactly_in_distant_years :
    let early : Date := ⟨-44, 3, 15, by decide⟩
    let late : Date := ⟨262142, 3, 15, by decide⟩
    validate .allowedSymbolsOnly early "Brutus+0315" = .error .containsBirthday ∧
      validate .allowedSymbolsOnly late "Brutus+0315" = .error .containsBirthday := by
  intro early late
  have said : validate .allowedSymbolsOnly early "Brutus+0315" = .error .containsBirthday := by
    decide +kernel
  exact ⟨said, ((judges_exactly .allowedSymbolsOnly early "Brutus+0315").2 late rfl rfl).trans said⟩

end Verdict

end MemberAuth.Policy
