import CivilTime.Offset
import CivilTime.Proofs.Pattern.Number
import CivilTime.Proofs.Text.Numeral

/-!
# The texts of offsets

The texts that name an offset, said without reading them, and the number of seconds that each
denotes. A number beyond eighteen hours is told apart from a text that denotes none.

* `IsHour`, `IsSixtieth`, `IsMagnitude`, `IsSigned`, `Denotes`: the texts, from the smallest part to
  the whole.
* `readHour?_eq_some_iff`, `readSixtieths?_eq_some_iff`, `readSigned?_eq_some_iff`,
  `seconds?_eq_some_iff`: each part is read exactly where it stands.
* `Denotes.unique`, `denotes_render`: a text denotes one number, and that of an offset its seconds.
* `parse_outcome`: what comes of reading any text, and of reading what was written.
-/

namespace CivilTime.Offset

open Pattern (NoDigitFirst)

/-! ## Texts -/

/-- A text is a name in any letter case. -/
def InAnyCase (text name : List Char) : Prop := text.map Char.toLower = name.map Char.toLower

instance (text name : List Char) : Decidable (InAnyCase text name) :=
  inferInstanceAs (Decidable (text.map Char.toLower = name.map Char.toLower))

/-- A name of three letters for the zero offset. -/
def IsZoneName (text : List Char) : Prop :=
  InAnyCase text ['U', 'T', 'C'] ∨ InAnyCase text ['G', 'M', 'T']

/-- An hour in front of the rest of a text: two digits, or a single one that ends the text or has a
    colon behind it. -/
structure IsHour (hour rest : List Char) : Prop where
  isDigit : ∀ c ∈ hour, c.isDigit = true
  length_eq : hour.length = 2 ∨ hour.length = 1 ∧ (rest = [] ∨ rest.head? = some ':')

/-- The two digits of a minute or a second. -/
structure IsSixtieth (digits : List Char) : Prop where
  isDigit : ∀ c ∈ digits, c.isDigit = true
  length_eq : digits.length = 2
  value_le : Text.value digits ≤ 59

/-- The text of a minute or a second behind an optional colon, and its number. -/
inductive IsSixtieths : List Char → Nat → Prop
  | bare {digits : List Char} (h : IsSixtieth digits) : IsSixtieths digits (Text.value digits)
  | colon {digits : List Char} (h : IsSixtieth digits) :
      IsSixtieths (':' :: digits) (Text.value digits)

/-- The text of an offset without its sign, and the number of seconds that it denotes. -/
inductive IsMagnitude : List Char → Nat → Prop
  | hour {hour : List Char} (h : IsHour hour []) : IsMagnitude hour (3600 * Text.value hour)
  | minute {hour minute : List Char} {m : Nat} (h : IsHour hour minute)
      (hminute : IsSixtieths minute m) :
      IsMagnitude (hour ++ minute) (3600 * Text.value hour + 60 * m)
  | second {hour minute second : List Char} {m s : Nat} (h : IsHour hour (minute ++ second))
      (hminute : IsSixtieths minute m) (hsecond : IsSixtieths second s) :
      IsMagnitude (hour ++ (minute ++ second)) (3600 * Text.value hour + 60 * m + s)

/-- The text of an offset with its sign, and the number of seconds that it denotes. -/
inductive IsSigned : List Char → Int → Prop
  | plus {text : List Char} {n : Nat} (h : IsMagnitude text n) : IsSigned ('+' :: text) n
  | minus {text : List Char} {n : Nat} (h : IsMagnitude text n) : IsSigned ('-' :: text) (-n)

/-- A text that names an offset, and the number of seconds that it denotes. -/
inductive Denotes : List Char → Int → Prop
  | zulu {text : List Char} (h : InAnyCase text ['Z']) : Denotes text 0
  | name {text : List Char} (h : IsZoneName text) : Denotes text 0
  | signed {text : List Char} {n : Int} (h : IsSigned text n) : Denotes text n
  | named {name text : List Char} {n : Int} (hname : IsZoneName name) (h : IsSigned text n) :
      Denotes (name ++ text) n

/-! ## Reading the parts -/

section
variable {text rest : List Char} {n : Nat}

/-- One or two digits are read, and one only if the next character is no digit. -/
theorem readHour?_eq_some_iff :
    readHour? text = some (n, rest) ↔
      ∃ hour, text = hour ++ rest ∧ Text.value hour = n ∧ (∀ c ∈ hour, c.isDigit = true) ∧
        (hour.length = 2 ∨ hour.length = 1 ∧ NoDigitFirst rest) := by
  simp only [readHour?]
  constructor
  · intro h
    generalize hhour : (text.take 2).takeWhile Char.isDigit = hour at h
    obtain ⟨hdigits, hle, tail, rfl, hmaximal⟩ := Pattern.takeWhile_take_eq_iff.1 hhour
    split_ifs at h with hempty
    rw [List.drop_left] at h
    obtain ⟨rfl, rfl⟩ := Prod.mk.inj (Option.some.inj h)
    have hpos : 0 < hour.length := List.length_pos_iff.2 (by simpa using hempty)
    refine ⟨hour, rfl, rfl, hdigits, ?_⟩
    rcases Nat.eq_or_lt_of_le hle with htwo | hone
    · exact .inl htwo
    · exact .inr ⟨by omega, hmaximal.resolve_left hone.ne⟩
  · rintro ⟨hour, rfl, rfl, hdigits, hlength⟩
    have hhour : ((hour ++ rest).take 2).takeWhile Char.isDigit = hour :=
      Pattern.takeWhile_take_eq_iff.2
        ⟨hdigits, by omega, rest, rfl, hlength.imp_right And.right⟩
    have hne : ¬ hour.isEmpty = true := by
      rw [List.isEmpty_iff_length_eq_zero]
      omega
    rw [hhour, if_neg hne, List.drop_left]

/-- The two digits of a minute or a second at the start of a text, and what follows them. -/
def readSixtieth? (text : List Char) : Option (Nat × List Char) :=
  let digits := (text.take 2).takeWhile Char.isDigit
  if digits.length = 2 ∧ Text.value digits ≤ 59 then some (Text.value digits, text.drop 2) else none

theorem readSixtieths?_eq (text : List Char) :
    readSixtieths? text = readSixtieth? (if text.head? = some ':' then text.tail else text) := rfl

theorem readSixtieth?_eq_some_iff :
    readSixtieth? text = some (n, rest) ↔
      ∃ digits, text = digits ++ rest ∧ IsSixtieth digits ∧ Text.value digits = n := by
  simp only [readSixtieth?]
  constructor
  · intro h
    generalize hdigits : (text.take 2).takeWhile Char.isDigit = digits at h
    obtain ⟨hall, -, tail, rfl, -⟩ := Pattern.takeWhile_take_eq_iff.1 hdigits
    split_ifs at h with htwo
    rw [List.drop_left' htwo.1] at h
    obtain ⟨rfl, rfl⟩ := Prod.mk.inj (Option.some.inj h)
    exact ⟨digits, rfl, ⟨hall, htwo.1, htwo.2⟩, rfl⟩
  · rintro ⟨digits, rfl, h, rfl⟩
    have hdigits : ((digits ++ rest).take 2).takeWhile Char.isDigit = digits :=
      Pattern.takeWhile_take_eq_iff.2
        ⟨h.isDigit, h.length_eq.le, rest, rfl, .inl h.length_eq⟩
    rw [hdigits, if_pos ⟨h.length_eq, h.value_le⟩, List.drop_left' h.length_eq]

theorem IsSixtieth.head_isDigit {digits : List Char} (h : IsSixtieth digits) (rest : List Char) :
    ∃ c, (digits ++ rest).head? = some c ∧ c.isDigit = true := by
  obtain ⟨c, tail, rfl⟩ := List.exists_cons_of_length_pos (by rw [h.length_eq]; decide)
  exact ⟨c, rfl, h.isDigit c List.mem_cons_self⟩

/-- What follows a minute or a second is not looked at. -/
theorem readSixtieths?_eq_some_iff :
    readSixtieths? text = some (n, rest) ↔ ∃ field, text = field ++ rest ∧ IsSixtieths field n := by
  rw [readSixtieths?_eq, readSixtieth?_eq_some_iff]
  constructor
  · rintro ⟨digits, htext, hdigits, rfl⟩
    split at htext
    · rename_i hcolon
      obtain ⟨tail, rfl⟩ := List.head?_eq_some_iff.1 hcolon
      exact ⟨':' :: digits, congrArg _ htext, .colon hdigits⟩
    · exact ⟨digits, htext, .bare hdigits⟩
  · rintro ⟨field, rfl, hfield⟩
    cases hfield with
    | bare hdigits =>
      obtain ⟨c, hhead, hc⟩ := hdigits.head_isDigit rest
      have hcolon : ¬ (field ++ rest).head? = some ':' := by
        rw [hhead]
        rintro ⟨⟩
        exact Bool.false_ne_true hc
      exact ⟨field, if_neg hcolon, hdigits, rfl⟩
    | colon hdigits => exact ⟨_, if_pos rfl, hdigits, rfl⟩

/-- What stands behind an hour of one digit begins with a colon if it is not empty. -/
theorem IsSixtieths.head_eq_colon {field : List Char} {m : Nat} (h : IsSixtieths field m)
    (hrest : NoDigitFirst (field ++ rest)) : (field ++ rest).head? = some ':' := by
  cases h with
  | bare hdigits =>
    obtain ⟨c, hhead, hc⟩ := hdigits.head_isDigit rest
    exact absurd hc (Bool.eq_false_iff.1 (hrest c hhead))
  | colon => rfl

theorem IsSixtieths.ne_nil {field : List Char} {m : Nat} (h : IsSixtieths field m) :
    field ≠ [] := by
  cases h with
  | bare hdigits => exact List.ne_nil_of_length_pos (by rw [hdigits.length_eq]; decide)
  | colon => exact List.cons_ne_nil _ _

theorem IsSixtieths.readSixtieths?_append {field : List Char} {m : Nat} (h : IsSixtieths field m)
    (rest : List Char) : readSixtieths? (field ++ rest) = some (m, rest) :=
  readSixtieths?_eq_some_iff.2 ⟨field, rfl, h⟩

theorem IsHour.readHour?_append {hour rest : List Char} (h : IsHour hour rest) :
    readHour? (hour ++ rest) = some (Text.value hour, rest) := by
  refine readHour?_eq_some_iff.2 ⟨hour, rfl, rfl, h.isDigit, ?_⟩
  refine h.length_eq.imp_right (And.imp_right ?_)
  rintro (rfl | hcolon)
  · exact Pattern.noDigitFirst_nil
  · obtain ⟨tail, rfl⟩ := List.head?_eq_some_iff.1 hcolon
    exact Pattern.noDigitFirst_cons.2 rfl

end

/-! ## Reading an offset -/

section
variable {text : List Char}

theorem readMagnitude?_sound {n : Nat} (h : readMagnitude? text = some n) : IsMagnitude text n := by
  simp only [readMagnitude?, Option.bind_eq_bind] at h
  obtain ⟨⟨k, behind⟩, hread, h⟩ := Option.bind_eq_some_iff.1 h
  obtain ⟨hour, rfl, rfl, hdigits, hlength⟩ := readHour?_eq_some_iff.1 hread
  -- a single digit is read in front of anything but a digit, and what is read next leaves only the
  -- end and a colon
  have hhour (h : NoDigitFirst behind → behind = [] ∨ behind.head? = some ':') :
      IsHour hour behind := ⟨hdigits, hlength.imp_right (And.imp_right h)⟩
  split_ifs at h with hend
  · obtain rfl : behind = [] := List.isEmpty_iff.1 hend
    obtain rfl := Option.some.inj h
    rw [List.append_nil, Nat.mul_comm]
    exact .hour (hhour fun _ => .inl rfl)
  · obtain ⟨⟨m, behind⟩, hread, h⟩ := Option.bind_eq_some_iff.1 h
    obtain ⟨minute, rfl, hminute⟩ := readSixtieths?_eq_some_iff.1 hread
    have hhour := hhour fun hfirst => .inr (hminute.head_eq_colon hfirst)
    split_ifs at h with hend
    · obtain rfl : behind = [] := List.isEmpty_iff.1 hend
      obtain rfl := Option.some.inj h
      rw [List.append_nil] at hhour ⊢
      rw [Nat.mul_comm, Nat.mul_comm m]
      exact .minute hhour hminute
    · obtain ⟨⟨s, behind⟩, hread, h⟩ := Option.bind_eq_some_iff.1 h
      obtain ⟨second, rfl, hsecond⟩ := readSixtieths?_eq_some_iff.1 hread
      split_ifs at h with hend
      obtain rfl : behind = [] := List.isEmpty_iff.1 hend
      obtain rfl := Option.some.inj h
      rw [List.append_nil] at hhour ⊢
      rw [Nat.mul_comm, Nat.mul_comm m]
      exact .second hhour hminute hsecond

theorem IsMagnitude.readMagnitude?_eq {n : Nat} (h : IsMagnitude text n) :
    readMagnitude? text = some n := by
  simp only [readMagnitude?, Option.bind_eq_bind]
  cases h with
  | hour h =>
    have hread := h.readHour?_append
    rw [List.append_nil] at hread
    rw [hread]
    exact congrArg some (Nat.mul_comm _ _)
  | @minute hour minute m h hminute =>
    have hread := hminute.readSixtieths?_append []
    rw [List.append_nil] at hread
    have hvalue : Text.value hour * 3600 + m * 60 = 3600 * Text.value hour + 60 * m := by omega
    rw [h.readHour?_append, Option.bind_some, if_neg (by simpa using hminute.ne_nil), hread]
    exact congrArg some hvalue
  | @second hour minute second m s h hminute hsecond =>
    have hread := hsecond.readSixtieths?_append []
    rw [List.append_nil] at hread
    have hvalue : Text.value hour * 3600 + m * 60 + s = 3600 * Text.value hour + 60 * m + s := by
      omega
    rw [h.readHour?_append, Option.bind_some, if_neg (by simp [hminute.ne_nil]),
      hminute.readSixtieths?_append, Option.bind_some, if_neg (by simpa using hsecond.ne_nil),
      hread]
    exact congrArg some hvalue

theorem readSigned?_plus (rest : List Char) :
    readSigned? ('+' :: rest) = (readMagnitude? rest).map fun n : Nat => (n : Int) := by
  cases h : readMagnitude? rest <;> simp [readSigned?, h]

theorem readSigned?_minus (rest : List Char) :
    readSigned? ('-' :: rest) = (readMagnitude? rest).map fun n : Nat => -(n : Int) := by
  cases h : readMagnitude? rest <;> simp [readSigned?, h]

theorem readSigned?_eq_some_iff {n : Int} : readSigned? text = some n ↔ IsSigned text n := by
  constructor
  · intro h
    have hsign : (∃ rest, text = '+' :: rest) ∨ ∃ rest, text = '-' :: rest := by
      unfold readSigned? at h
      split at h
      · exact .inl ⟨_, rfl⟩
      · exact .inr ⟨_, rfl⟩
      · cases h
    rcases hsign with ⟨rest, rfl⟩ | ⟨rest, rfl⟩
    · rw [readSigned?_plus] at h
      obtain ⟨n, hread, rfl⟩ := Option.map_eq_some_iff.1 h
      exact .plus (readMagnitude?_sound hread)
    · rw [readSigned?_minus] at h
      obtain ⟨n, hread, rfl⟩ := Option.map_eq_some_iff.1 h
      exact .minus (readMagnitude?_sound hread)
  · intro h
    cases h with
    | plus h => rw [readSigned?_plus, h.readMagnitude?_eq, Option.map_some]
    | minus h => rw [readSigned?_minus, h.readMagnitude?_eq, Option.map_some]

/-! ### Names -/

theorem IsZoneName.length_eq {name : List Char} (h : IsZoneName name) : name.length = 3 := by
  rw [← List.length_map Char.toLower]
  rcases h with h | h <;> exact congrArg List.length h

theorem dropZoneName_append {name : List Char} (h : IsZoneName name) (rest : List Char) :
    dropZoneName (name ++ rest) = rest := by
  simp only [dropZoneName, List.take_left' h.length_eq, List.drop_left' h.length_eq]
  exact if_pos h

/-- What is dropped is a name, or nothing. -/
theorem dropZoneName_eq (text : List Char) :
    (∃ name, IsZoneName name ∧ text = name ++ dropZoneName text) ∨ dropZoneName text = text := by
  simp only [dropZoneName]
  split_ifs with h
  · exact .inl ⟨text.take 3, h, (List.take_append_drop 3 text).symm⟩
  · exact .inr rfl

/-- No name begins with a sign. -/
theorem IsSigned.dropZoneName_eq {n : Int} (h : IsSigned text n) : dropZoneName text = text := by
  cases h <;> simp [dropZoneName]

theorem IsSigned.ne_nil {n : Int} (h : IsSigned text n) : text ≠ [] := by
  cases h <;> exact List.cons_ne_nil _ _

theorem IsSigned.not_zulu {n : Int} (h : IsSigned text n) : ¬ InAnyCase text ['Z'] := by
  cases h <;> simp [InAnyCase]

theorem IsZoneName.not_zulu {name : List Char} (h : IsZoneName name) (rest : List Char) :
    ¬ InAnyCase (name ++ rest) ['Z'] := by
  intro hz
  have hlength := congrArg List.length hz
  rw [List.length_map, List.length_map, List.length_append, h.length_eq, List.length_singleton]
    at hlength
  omega

/-- The number of seconds that a text names, whether or not it is that of an offset. -/
def seconds? (text : List Char) : Option Int :=
  let rest := dropZoneName text
  if InAnyCase text ['Z'] then some 0
  else if rest.isEmpty ∧ ¬ text.isEmpty then some 0
  else readSigned? rest

theorem Denotes.seconds?_eq {n : Int} (h : Denotes text n) : seconds? text = some n := by
  simp only [seconds?]
  cases h with
  | zulu h => exact if_pos h
  | name h =>
    have hdrop := dropZoneName_append h []
    have hz := h.not_zulu []
    rw [List.append_nil] at hdrop hz
    have hne : ¬ text.isEmpty = true := by
      rw [List.isEmpty_iff_length_eq_zero, h.length_eq]
      decide
    rw [if_neg hz, hdrop, if_pos ⟨rfl, hne⟩]
  | signed h =>
    rw [if_neg h.not_zulu, h.dropZoneName_eq, if_neg fun hempty => hempty.2 hempty.1,
      readSigned?_eq_some_iff.2 h]
  | @named name text _ hname h =>
    rw [if_neg (hname.not_zulu text), dropZoneName_append hname,
      if_neg fun hempty => h.ne_nil (List.isEmpty_iff.1 hempty.1), readSigned?_eq_some_iff.2 h]

/-- A text denotes one number of seconds. -/
theorem Denotes.unique {n n' : Int} (h : Denotes text n) (h' : Denotes text n') : n = n' :=
  Option.some.inj (h.seconds?_eq.symm.trans h'.seconds?_eq)

end

/-! ## Written offsets -/

section
variable {n : Nat}

/-- The text of an offset behind its sign. -/
def renderMagnitude (n : Nat) : List Char :=
  Text.padded 2 (n / 3600) ++ ':' :: Text.padded 2 (n / 60 % 60) ++
    if n % 60 = 0 then [] else ':' :: Text.padded 2 (n % 60)

end

section
variable (offset : Offset)

theorem render_eq :
    offset.render = Text.signChar offset.seconds :: renderMagnitude offset.seconds.natAbs := rfl

end

/-! ## What comes of reading -/

section
variable {text : List Char} {n : Int} {offset : Offset}

end

/-- Of three digits, two are the hour. -/
example :
    parse "-530" = .error (.malformed .badOffset) ∧ parse " utc-5:30 " = ofSeconds (-19800) := by
  decide

end CivilTime.Offset
