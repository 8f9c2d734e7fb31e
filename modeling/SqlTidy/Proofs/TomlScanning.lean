import SqlTidy.Toml.Document

/-!
# Where TOML scanners stop

A scanner reads something off the front of a text. What it leaves is an end of the text, and if it stops
at a number that is too long to be converted, that number stands in the text (`Keeps`). Scanners that are
made of others keep to their text because those do (`Keeps.bind`).

So a document that is not read because of a number holds more digits in a row than can be converted
(`overlong_of_parse`).
-/

namespace SqlTidy.Toml

/-- So many digits stand in a row somewhere in a text; underscores between them do not count. -/
def HoldsDigits (n : Nat) (cs : List Char) : Prop :=
  ∃ run, run <:+: cs ∧ (∀ c ∈ run, isDecDigit c = true ∨ c = '_') ∧ run.countP isDecDigit = n

/-- A limit on numbers that a number of the text exceeds. -/
def Overlong (cs : List Char) : DigitLimitExceeded → Prop
  | .reading n => digitLimit < n ∧ HoldsDigits n cs
  | .writing => False

theorem Overlong.of_suffix {rest cs : List Char} {limit : DigitLimitExceeded} (h : Overlong rest limit)
    (hs : rest <:+ cs) : Overlong cs limit := by
  cases limit with
  | writing => exact h
  | reading n =>
    obtain ⟨hn, run, hrun, hdigits, hcount⟩ := h
    exact ⟨hn, run, hrun.trans hs.isInfix, hdigits, hcount⟩

section Keeps

variable {α β : Type} {cs rest : List Char} {left : α → List Char} {left' : β → List Char}
  {x : Except Stop α} {f : α → Except Stop β}

/-- A scanner that was given a text has left an end of it, or has stopped at a flaw or at a number of
the text. -/
def Keeps (cs : List Char) (left : α → List Char) : Except Stop α → Prop
  | .ok a => left a <:+ cs
  | .error (.flaw _ _) => True
  | .error (.tooLong limit) => Overlong cs limit

/-- What keeps to an end of a text keeps to the text. -/
theorem Keeps.of_suffix (h : Keeps rest left x) (hs : rest <:+ cs) : Keeps cs left x := by
  match x, h with
  | .ok a, h => exact h.trans hs
  | .error (.flaw _ _), _ => trivial
  | .error (.tooLong limit), h => exact Overlong.of_suffix h hs

/-- One scanner after another: the second keeps to what the first has left, so both together keep to the text. -/
theorem Keeps.bind (hx : Keeps cs left x) (hf : ∀ a, Keeps (left a) left' (f a)) :
    Keeps cs left' (x >>= f) := by
  match x, hx with
  | .ok a, hx => exact (hf a).of_suffix hx
  | .error (.flaw _ _), _ => trivial
  | .error (.tooLong limit), hx => exact hx

/-- Making something of what was read changes nothing about the rest. -/
theorem Keeps.map (hx : Keeps cs left x) {g : α → β} (hg : ∀ a, left' (g a) = left a) :
    Keeps cs left' (x.map g) := by
  match x, hx with
  | .ok a, hx =>
    change left' (g a) <:+ cs
    rwa [hg]
  | .error (.flaw _ _), _ => trivial
  | .error (.tooLong limit), hx => exact hx

theorem Keeps.ite {c : Prop} [Decidable c] {y : Except Stop α} (hx : Keeps cs left x)
    (hy : Keeps cs left y) : Keeps cs left (if c then x else y) := by
  split
  · exact hx
  · exact hy

/-- What is done with the things that were read may only have a flaw. -/
theorem Keeps.bind_flawAt {y : Except Flaw α} (hf : ∀ a, Keeps cs left' (f a)) :
    Keeps cs left' (flawAt rest y >>= f) := by
  cases y with
  | ok a => exact hf a
  | error flaw => trivial

end Keeps

/-! ## Blanks and comments -/

theorem skipSpace_suffix (cs : List Char) : skipSpace cs <:+ cs := List.dropWhile_suffix _

theorem splitBefore?_suffix {mark : List Char} : ∀ {cs before after : List Char},
    splitBefore? mark cs = some (before, after) → after <:+ cs
  | [], before, after, h => by
    rw [splitBefore?] at h
    split at h <;> cases h
    exact List.suffix_rfl
  | c :: cs, before, after, h => by
    rw [splitBefore?] at h
    split at h
    · cases h
      exact List.suffix_rfl
    · obtain ⟨⟨b, a⟩, hba, hab⟩ := Option.map_eq_some_iff.1 h
      cases hab
      exact (splitBefore?_suffix hba).trans (List.suffix_cons c cs)

/-- A refused character is a flaw of the document. It never has to do with the length of a number. -/
theorem refuse_keeps (bad : Char → Bool) (body rest cs : List Char) :
    Keeps cs (fun _ => cs) (refuse bad body rest) := by
  rw [refuse]
  split
  · exact List.suffix_rfl
  · trivial

theorem skipComment_keeps (cs : List Char) : Keeps cs id (skipComment cs) := by
  unfold skipComment
  split
  · next rest =>
    refine (refuse_keeps _ _ _ _).bind fun _ => ?_
    exact (List.dropWhile_suffix _).trans (List.suffix_cons '#' rest)
  · exact List.suffix_rfl

/-- By induction on the steps: each one takes blanks and one comment off the front. -/
theorem skipBetween_keeps : ∀ (steps : Nat) (cs : List Char), Keeps cs id (skipBetween steps cs)
  | 0, cs => List.suffix_rfl
  | steps + 1, cs => by
    have hdrop : cs.dropWhile isTomlSpaceOrNewline <:+ cs := List.dropWhile_suffix _
    unfold skipBetween
    split
    · next rest h =>
      rw [h] at hdrop
      exact ((skipComment_keeps _).bind fun after => skipBetween_keeps steps after).of_suffix hdrop
    · exact hdrop

theorem skipArraySpace_keeps (cs : List Char) : Keeps cs id (skipArraySpace cs) := skipBetween_keeps _ cs

/-! ## Strings -/

theorem hexChar_keeps (count : Nat) (cs : List Char) : Keeps cs Prod.snd (hexChar count cs) := by
  unfold hexChar
  dsimp only
  split
  · trivial
  split
  · exact List.drop_suffix count cs
  · trivial

/-- An escape reads past a line boundary only in a string of several lines, and then all blanks behind it. -/
theorem escape_keeps (multiline : Bool) (cs : List Char) : Keeps cs Prod.snd (escape multiline cs) := by
  unfold escape
  split
  · trivial
  next c rest =>
  have hrest : rest <:+ c :: rest := List.suffix_cons c rest
  split
  · -- The blanks behind a backslash at the end of a line.
    split
    · next more hmore =>
      have hafter : more <:+ rest := by
        split at hmore
        · cases hmore
          exact List.suffix_rfl
        · split at hmore
          · next h =>
            cases hmore
            have hspace := skipSpace_suffix rest
            rw [h] at hspace
            exact (List.suffix_cons _ _).trans hspace
          · cases hmore
      exact ((List.dropWhile_suffix _).trans hafter).trans hrest
    · split
      · exact List.nil_suffix
      · trivial
  split
  · refine Keeps.of_suffix ((hexChar_keeps 4 rest).map ?_) hrest
    exact fun _ => rfl
  split
  · refine Keeps.of_suffix ((hexChar_keeps 8 rest).map ?_) hrest
    exact fun _ => rfl
  split
  · exact hrest
  · trivial

/-- By induction on the steps: each one takes a character, an escape or the closing quotes off the front. -/
theorem basicString_keeps (multiline : Bool) : ∀ (steps : Nat) (body cs : List Char),
    Keeps cs Prod.snd (basicString multiline steps body cs)
  | 0, _, _ => trivial
  | _ + 1, _, [] => trivial
  | steps + 1, body, c :: rest => by
    have hrest : rest <:+ c :: rest := List.suffix_cons c rest
    have hmore : ∀ body, Keeps (c :: rest) Prod.snd (basicString multiline steps body rest) :=
      fun body => (basicString_keeps multiline steps body rest).of_suffix hrest
    unfold basicString
    refine .ite (.ite hrest ?_) (.ite (Keeps.of_suffix ?_ hrest) (.ite trivial (hmore _)))
    · split
      · next after =>
        have hquote : after <:+ '"' :: after := List.suffix_cons '"' after
        exact (hquote.trans (List.suffix_cons '"' _)).trans hrest
      · exact hmore _
    · exact (escape_keeps multiline rest).bind fun a => basicString_keeps multiline steps _ a.2

theorem lineString_keeps (cs : List Char) : Keeps cs Prod.snd (lineString cs) :=
  basicString_keeps false _ [] cs

theorem literalString_keeps (cs : List Char) : Keeps cs Prod.snd (literalString cs) := by
  unfold literalString
  split
  · trivial
  · next body after h =>
    refine Keeps.of_suffix ?_ (splitBefore?_suffix h)
    exact (refuse_keeps isControl body after after).bind fun _ => List.drop_suffix 1 after

theorem dropNewline_suffix (cs : List Char) : dropNewline cs <:+ cs := by
  unfold dropNewline
  split
  · exact List.suffix_cons _ _
  · exact List.suffix_rfl

/-- Up to two quotes in front of the closing ones belong to the string. They are taken off the rest. -/
theorem extraQuotes_suffix (quote : Char) (body : String) (cs : List Char) :
    (extraQuotes quote body cs).2 <:+ cs := by
  unfold extraQuotes
  split
  · next c rest =>
    have hrest : rest <:+ c :: rest := List.suffix_cons c rest
    split
    · split
      · next d more =>
        split
        · exact (List.suffix_cons d more).trans hrest
        · exact hrest
      · exact hrest
    · exact List.suffix_rfl
  · exact List.suffix_rfl

theorem linesString_keeps (cs : List Char) : Keeps cs Prod.snd (linesString cs) := by
  refine Keeps.of_suffix ?_ (dropNewline_suffix cs)
  exact (basicString_keeps true _ [] _).bind fun a => extraQuotes_suffix _ a.1 a.2

theorem literalLines_keeps (cs : List Char) : Keeps cs Prod.snd (literalLines cs) := by
  refine Keeps.of_suffix ?_ (dropNewline_suffix cs)
  unfold literalLines
  dsimp only
  split
  · trivial
  · next body after h =>
    refine Keeps.of_suffix ?_ (splitBefore?_suffix h)
    refine (refuse_keeps isControlInLines body after after).bind fun _ => ?_
    exact (extraQuotes_suffix _ _ _).trans (List.drop_suffix 3 after)

/-! ## Keys -/

theorem keyPart_keeps (cs : List Char) : Keeps cs Prod.snd (keyPart cs) := by
  unfold keyPart
  split
  · exact (literalString_keeps _).of_suffix (List.suffix_cons _ _)
  · exact (lineString_keeps _).of_suffix (List.suffix_cons _ _)
  · split
    · exact List.dropWhile_suffix _
    · trivial
  · trivial

theorem keyParts_keeps : ∀ (steps : Nat) (parts : Key) (cs : List Char),
    Keeps cs Prod.snd (keyParts steps parts cs)
  | 0, _, _ => List.suffix_rfl
  | steps + 1, parts, cs => by
    unfold keyParts
    split
    · next rest _ => 
      refine Keeps.of_suffix ?_ ((skipSpace_suffix rest).trans (List.suffix_cons '.' rest))
      refine (keyPart_keeps _).bind fun ⟨part, after⟩ => ?_
      exact (keyParts_keeps _ _ _).of_suffix (skipSpace_suffix after)
    · exact List.suffix_rfl

theorem key_keeps (cs : List Char) : Keeps cs Prod.snd (key cs) :=
  (keyPart_keeps cs).bind fun ⟨_, after⟩ => (keyParts_keeps _ _ _).of_suffix (skipSpace_suffix after)

/-! ## Digits -/

/-- Digits and how a text writes them: underscores may stand between them. -/
def Spelled (digit : Char → Bool) (cs digits after : List Char) : Prop :=
  ∃ run, cs = run ++ after ∧ (∀ c ∈ run, digit c = true ∨ c = '_') ∧ run.countP digit = digits.length

section Digits

variable {digit : Char → Bool} {cs digits after : List Char} {c : Char}

/-- What follows a run of digits is an end of the text. -/
theorem Spelled.suffix (h : Spelled digit cs digits after) : after <:+ cs := by
  obtain ⟨run, rfl, -, -⟩ := h
  exact List.suffix_append run after

theorem spelled_nil (cs : List Char) : Spelled digit cs [] cs := ⟨[], rfl, by simp, rfl⟩

theorem Spelled.cons (h : Spelled digit cs digits after) (hc : digit c = true) :
    Spelled digit (c :: cs) (c :: digits) after := by
  obtain ⟨run, rfl, hrun, hcount⟩ := h
  refine ⟨c :: run, rfl, List.forall_mem_cons.2 ⟨.inl hc, hrun⟩, ?_⟩
  rw [List.countP_cons_of_pos hc, hcount, List.length_cons]

theorem Spelled.underscore (h : Spelled digit cs digits after) (hu : digit '_' = false) :
    Spelled digit ('_' :: cs) digits after := by
  obtain ⟨run, rfl, hrun, hcount⟩ := h
  refine ⟨'_' :: run, rfl, List.forall_mem_cons.2 ⟨.inr rfl, hrun⟩, ?_⟩
  rw [List.countP_cons_of_neg (by simp [hu]), hcount]

/-- An underscore is passed over only in front of a digit, so none is left at the end of a run. -/
theorem moreDigits_spelled (hu : digit '_' = false) (cs : List Char) :
    Spelled digit cs (moreDigits digit cs).1 (moreDigits digit cs).2 := by
  fun_induction moreDigits digit cs with
  | case1 c rest hc digits after h ih =>
    rw [h] at ih
    exact (ih.cons hc).underscore hu
  | case2 c rest hc => exact spelled_nil _
  | case3 c rest hno hc digits after h ih =>
    rw [h] at ih
    exact ih.cons hc
  | case4 c rest hc => exact spelled_nil _
  | case5 => exact spelled_nil []

theorem digits?_spelled (hu : digit '_' = false) (h : digits? digit cs = some (digits, after)) :
    Spelled digit cs digits after := by
  unfold digits? at h
  split at h
  · split at h
    · next hc =>
      cases h
      exact (moreDigits_spelled hu _).cons hc
    · cases h
  · cases h

theorem wholePart?_spelled (h : wholePart? cs = some (digits, after)) :
    Spelled isDecDigit cs digits after := by
  unfold wholePart? at h
  split at h
  · cases h
    exact (spelled_nil after).cons (by decide)
  · exact digits?_spelled (by decide) h

/-- More digits than can be converted stand in the text that they are read from. -/
theorem Spelled.overlong (h : Spelled isDecDigit cs digits after) (hlimit : digitLimit < digits.length) :
    Overlong cs (.reading digits.length) := by
  obtain ⟨run, rfl, hrun, hcount⟩ := h
  exact ⟨hlimit, run, (List.prefix_append run after).isInfix, hrun, hcount⟩

end Digits

/-! ## Numbers and dates -/

/-- What is recognised at the front of a text leaves an end of it. -/
def Leaves {α : Type} (cs : List Char) (left : α → List Char) (x : Option α) : Prop :=
  ∀ a, x = some a → left a <:+ cs

section Scalars

variable {α β : Type} {cs rest : List Char} {left : α → List Char} {left' : β → List Char} {x : Option α}
  {f : α → Option β}

theorem leaves_none : Leaves cs left none := fun _ h => by cases h

theorem leaves_some {a : α} (h : left a <:+ cs) : Leaves cs left (some a) := by
  rintro _ ⟨⟩
  exact h

theorem Leaves.of_suffix (h : Leaves rest left x) (hs : rest <:+ cs) : Leaves cs left x :=
  fun a ha => (h a ha).trans hs

/-- As `Keeps.bind`, for what is recognised or not and cannot stop. -/
theorem Leaves.bind (hx : Leaves cs left x) (hf : ∀ a, Leaves (left a) left' (f a)) :
    Leaves cs left' (x >>= f) := by
  intro b hb
  obtain ⟨a, ha, hb⟩ := Option.bind_eq_some_iff.1 hb
  exact (hf a b hb).trans (hx a ha)

theorem Leaves.map (hx : Leaves cs left x) {g : α → β} (hg : ∀ a, left' (g a) = left a) :
    Leaves cs left' (x.map g) := by
  intro b hb
  obtain ⟨a, ha, rfl⟩ := Option.map_eq_some_iff.1 hb
  rw [hg]
  exact hx a ha

theorem Leaves.ite {c : Prop} [Decidable c] {y : Option α} (hx : Leaves cs left x)
    (hy : Leaves cs left y) : Leaves cs left (if c then x else y) := by
  split
  · exact hx
  · exact hy

theorem digits?_leaves {digit : Char → Bool} (hu : digit '_' = false) (cs : List Char) :
    Leaves cs Prod.snd (digits? digit cs) := fun _ h => (digits?_spelled hu h).suffix

/-- Numbers with a radix have no limit: there is nothing to show but what they leave. -/
theorem radixInt?_leaves (cs : List Char) : Leaves cs Prod.snd (radixInt? cs) := by
  have hskip : ∀ {rest : List Char} (c d : Char), rest <:+ c :: d :: rest := fun c d =>
    (List.suffix_cons d _).trans (List.suffix_cons c _)
  unfold radixInt?
  split
  · refine Leaves.of_suffix ((digits?_leaves (by decide) _).map ?_) (hskip _ _)
    exact fun _ => rfl
  · refine Leaves.of_suffix ((digits?_leaves (by decide) _).map ?_) (hskip _ _)
    exact fun _ => rfl
  · refine Leaves.of_suffix ((digits?_leaves (by decide) _).map ?_) (hskip _ _)
    exact fun _ => rfl
  · exact leaves_none

theorem signOf_suffix (cs : List Char) : (signOf cs).2 <:+ cs := by
  unfold signOf
  split
  · exact List.suffix_cons _ _
  · exact List.suffix_cons _ _
  · exact List.suffix_rfl

theorem fractionPart_suffix (cs : List Char) : (fractionPart cs).2 <:+ cs := by
  unfold fractionPart
  split
  · next rest =>
    cases h : digits? isDecDigit rest with
    | none => exact List.suffix_rfl
    | some a => exact (digits?_leaves (by decide) rest a h).trans (List.suffix_cons '.' rest)
  · exact List.suffix_rfl

theorem exponentPart?_leaves (cs : List Char) : Leaves cs Prod.snd (exponentPart? cs) := by
  unfold exponentPart?
  split
  · next c rest =>
    refine .ite ?_ leaves_none
    refine Leaves.of_suffix ((digits?_leaves (by decide) _).map ?_)
      ((signOf_suffix rest).trans (List.suffix_cons c rest))
    exact fun _ => rfl
  · exact leaves_none

/-- The digits of a whole number are counted and its sign is not, so the number that is too long stands behind the
sign. -/
theorem decimal?_spec {v : Except DigitLimitExceeded Value} {after : List Char}
    (h : decimal? cs = some (v, after)) :
    after <:+ cs ∧ ∀ limit, v = .error limit → Overlong cs limit := by
  obtain ⟨⟨whole, rest⟩, hwhole, h⟩ := Option.bind_eq_some_iff.1 h
  have hspelled := wholePart?_spelled hwhole
  have hfraction : (fractionPart rest).2 <:+ cs :=
    (fractionPart_suffix rest).trans (hspelled.suffix.trans (signOf_suffix cs))
  dsimp only at h
  split at h
  · cases h
    refine ⟨hfraction, fun limit hv => ?_⟩
    split at hv
    · next hlimit =>
      cases hv
      exact (hspelled.overlong hlimit).of_suffix (signOf_suffix cs)
    · cases hv
  · cases h
    exact ⟨hfraction, fun _ hv => by cases hv⟩
  · next hexponent =>
    cases h
    exact ⟨(exponentPart?_leaves _ _ hexponent).trans hfraction, fun _ hv => by cases hv⟩

theorem number?_spec {v : Except DigitLimitExceeded Value} {after : List Char}
    (h : number? cs = some (v, after)) :
    after <:+ cs ∧ ∀ limit, v = .error limit → Overlong cs limit := by
  unfold number? at h
  split at h
  · next hradix =>
    cases h
    exact ⟨radixInt?_leaves cs _ hradix, fun _ hv => by cases hv⟩
  · exact decimal?_spec h

theorem specialFloat?_leaves (cs : List Char) : Leaves cs Prod.snd (specialFloat? cs) := by
  unfold specialFloat?
  split
  case h_1 | h_4 => exact leaves_some (List.suffix_append [_, _, _] _)
  case h_2 | h_3 | h_5 | h_6 => exact leaves_some (List.suffix_append [_, _, _, _] _)
  case h_7 => exact leaves_none

theorem twoDigits?_leaves (lo hi : Nat) (cs : List Char) : Leaves cs Prod.snd (twoDigits? lo hi cs) := by
  unfold twoDigits?
  split
  · next a b rest =>
    exact .ite (.ite (leaves_some (List.suffix_append [a, b] rest)) leaves_none) leaves_none
  · exact leaves_none

theorem expect?_leaves (c : Char) (cs : List Char) : Leaves cs id (expect? c cs) := by
  unfold expect?
  split
  · next d rest => exact .ite (leaves_some (List.suffix_cons d rest)) leaves_none
  · exact leaves_none

/-- A point behind the seconds counts only if a digit follows, and then all digits behind it are read. -/
theorem timeOfDay?_leaves (cs : List Char) : Leaves cs Prod.snd (timeOfDay? cs) := by
  refine (twoDigits?_leaves 0 23 cs).bind fun ⟨hour, cs⟩ => ?_
  refine (expect?_leaves ':' cs).bind fun cs => ?_
  refine (twoDigits?_leaves 0 59 cs).bind fun ⟨minute, cs⟩ => ?_
  refine (expect?_leaves ':' cs).bind fun cs => ?_
  refine (twoDigits?_leaves 0 59 cs).bind fun ⟨second, cs⟩ => ?_
  dsimp only
  split
  · next rest =>
    refine .ite (leaves_some List.suffix_rfl) (leaves_some ?_)
    exact (List.dropWhile_suffix _).trans (List.suffix_cons '.' rest)
  · exact leaves_some List.suffix_rfl

theorem offset?_leaves (cs : List Char) : Leaves cs Prod.snd (offset? cs) := by
  unfold offset?
  split
  · exact leaves_some (List.suffix_cons _ _)
  · exact leaves_some (List.suffix_cons _ _)
  · next sign rest _ _ =>
    refine .ite (Leaves.of_suffix ?_ (List.suffix_cons sign rest)) leaves_none
    refine (twoDigits?_leaves 0 23 rest).bind fun ⟨hours, cs⟩ => ?_
    refine (expect?_leaves ':' cs).bind fun cs => ?_
    refine (twoDigits?_leaves 0 59 cs).bind fun ⟨minutes, cs⟩ => ?_
    exact leaves_some List.suffix_rfl
  · exact leaves_none

theorem date?_leaves (cs : List Char) : Leaves cs Prod.snd (date? cs) := by
  refine (twoDigits?_leaves 0 99 cs).bind fun ⟨century, cs⟩ => ?_
  refine (twoDigits?_leaves 0 99 cs).bind fun ⟨year, cs⟩ => ?_
  refine (expect?_leaves '-' cs).bind fun cs => ?_
  refine (twoDigits?_leaves 1 12 cs).bind fun ⟨month, cs⟩ => ?_
  refine (expect?_leaves '-' cs).bind fun cs => ?_
  refine (twoDigits?_leaves 1 31 cs).bind fun ⟨day, cs⟩ => ?_
  exact leaves_some List.suffix_rfl

/-- A date that no time follows ends there, even if a blank does. -/
theorem dateOrMoment?_leaves (cs : List Char) : Leaves cs (fun a => a.2.2) (dateOrMoment? cs) := by
  refine (date?_leaves cs).bind fun ⟨date, cs⟩ => ?_
  dsimp only
  split
  · exact leaves_some List.suffix_rfl
  · next time rest htime =>
    have hrest : rest <:+ cs := by
      split at htime
      · next c more =>
        split at htime
        · exact (timeOfDay?_leaves more _ htime).trans (List.suffix_cons c more)
        · cases htime
      · cases htime
    split
    · next hoffset => exact leaves_some ((offset?_leaves rest _ hoffset).trans hrest)
    · exact leaves_some hrest

/-- Only the branch of the numbers can stop at one that is too long; dates and times are tried before it. -/
theorem scalar_keeps (cs : List Char) : Keeps cs Prod.snd (scalar cs) := by
  unfold scalar
  split
  · next h => exact .ite (dateOrMoment?_leaves cs _ h) trivial
  split
  · next h => exact timeOfDay?_leaves cs _ h
  split
  · next h => exact (number?_spec h).1
  · next h => exact (number?_spec h).2 _ rfl
  split
  · next h => exact specialFloat?_leaves cs _ h
  · trivial

end Scalars

/-! ## Values -/

mutual

/-- A value, the items of an array and the entries of an inline table keep to their text, by one induction on the
depth. -/
theorem value_keeps : ∀ (depth : Nat) (cs : List Char), Keeps cs Prod.snd (value depth cs)
  | 0, _ => trivial
  | depth + 1, cs => by
    unfold value
    split
    case h_1 rest =>
      refine Keeps.of_suffix ((linesString_keeps rest).map ?_) (List.suffix_append [_, _, _] rest)
      exact fun _ => rfl
    case h_2 rest _ =>
      refine Keeps.of_suffix ((lineString_keeps rest).map ?_) (List.suffix_cons _ rest)
      exact fun _ => rfl
    case h_3 rest =>
      refine Keeps.of_suffix ((literalLines_keeps rest).map ?_) (List.suffix_append [_, _, _] rest)
      exact fun _ => rfl
    case h_4 rest _ =>
      refine Keeps.of_suffix ((literalString_keeps rest).map ?_) (List.suffix_cons _ rest)
      exact fun _ => rfl
    case h_5 rest => exact List.suffix_append [_, _, _, _] rest
    case h_6 rest => exact List.suffix_append [_, _, _, _, _] rest
    case h_7 rest =>
      refine Keeps.of_suffix ((skipArraySpace_keeps rest).bind fun items => ?_) (List.suffix_cons '[' rest)
      split
      · exact List.suffix_cons _ _
      · exact arrayItems_keeps depth [] _
    case h_8 rest =>
      have hspace := (skipSpace_suffix rest).trans (List.suffix_cons '\x7b' rest)
      split
      · next h =>
        rw [h] at hspace
        exact (List.suffix_cons _ _).trans hspace
      · exact (inlineEntries_keeps depth _ _).of_suffix hspace
    case h_9 => exact scalar_keeps cs

theorem arrayItems_keeps : ∀ (depth : Nat) (items : List Value) (cs : List Char),
    Keeps cs Prod.snd (arrayItems depth items cs)
  | 0, _, _ => trivial
  | depth + 1, items, cs => by
    unfold arrayItems
    refine (value_keeps depth cs).bind fun ⟨v, after⟩ => ?_
    refine (skipArraySpace_keeps after).bind fun after => ?_
    split
    · exact List.suffix_cons _ _
    · next more =>
      refine Keeps.of_suffix ?_ (List.suffix_cons ',' more)
      refine (skipArraySpace_keeps more).bind fun next => ?_
      split
      · exact List.suffix_cons _ _
      · exact arrayItems_keeps depth _ _
    · trivial

theorem inlineEntries_keeps : ∀ (depth : Nat) (t : InlineTable) (cs : List Char),
    Keeps cs Prod.snd (inlineEntries depth t cs)
  | 0, _, _ => trivial
  | depth + 1, t, cs => by
    unfold inlineEntries
    refine (key_keeps cs).bind fun ⟨k, after⟩ => ?_
    dsimp only
    split
    · next rest =>
      refine Keeps.of_suffix ?_ ((skipSpace_suffix rest).trans (List.suffix_cons '=' rest))
      refine (value_keeps depth _).bind fun ⟨v, after⟩ => ?_
      refine Keeps.bind_flawAt fun t => ?_
      have hspace := skipSpace_suffix after
      split
      · next h =>
        rw [h] at hspace
        exact (List.suffix_cons _ _).trans hspace
      · next more h =>
        rw [h] at hspace
        refine (inlineEntries_keeps depth t _).of_suffix ?_
        exact ((skipSpace_suffix more).trans (List.suffix_cons ',' more)).trans hspace
      · trivial
    · trivial

end

theorem keyValue_keeps (cs : List Char) : Keeps cs Prod.snd (keyValue cs) := by
  refine (key_keeps cs).bind fun ⟨k, after⟩ => ?_
  dsimp only
  split
  · next rest =>
    refine Keeps.of_suffix ?_ ((skipSpace_suffix rest).trans (List.suffix_cons '=' rest))
    exact (value_keeps _ _).bind fun ⟨v, after⟩ => List.suffix_rfl
  · trivial

/-! ## Documents -/

theorem statement_keeps (d : Draft) (cs : List Char) : Keeps cs Prod.snd (statement d cs) := by
  unfold statement
  split
  · next rest =>
    have hrest : skipSpace rest <:+ '[' :: '[' :: rest :=
      (skipSpace_suffix rest).trans (List.suffix_append ['[', '['] rest)
    refine Keeps.of_suffix ((key_keeps _).bind fun ⟨k, after⟩ => ?_) hrest
    refine Keeps.bind_flawAt fun d => ?_
    split
    · next after => exact (skipSpace_suffix after).trans (List.suffix_append [']', ']'] after)
    · trivial
  · next rest _ =>
    have hrest : skipSpace rest <:+ '[' :: rest := (skipSpace_suffix rest).trans (List.suffix_cons '[' rest)
    refine Keeps.of_suffix ((key_keeps _).bind fun ⟨k, after⟩ => ?_) hrest
    refine Keeps.bind_flawAt fun d => ?_
    split
    · next after => exact (skipSpace_suffix after).trans (List.suffix_cons ']' after)
    · trivial
  · refine .ite ?_ (.ite List.suffix_rfl trivial)
    refine (keyValue_keeps _).bind fun entry => ?_
    obtain ⟨⟨k, v⟩, after⟩ := entry
    exact Keeps.bind_flawAt fun d => skipSpace_suffix after
  · exact List.suffix_rfl

/-- The document is read to its end, so nothing is left of it. -/
theorem statements_keeps : ∀ (steps : Nat) (d : Draft) (cs : List Char),
    Keeps cs (fun _ => []) (statements steps d cs)
  | 0, _, _ => List.nil_suffix
  | steps + 1, d, cs => by
    have hspace := skipSpace_suffix cs
    unfold statements
    split
    · exact List.nil_suffix
    · next rest h =>
      rw [h] at hspace
      exact (statements_keeps steps d rest).of_suffix ((List.suffix_cons _ _).trans hspace)
    · refine Keeps.of_suffix ((statement_keeps d _).bind fun ⟨d, after⟩ => ?_) hspace
      refine (skipComment_keeps after).bind fun after => ?_
      split
      · exact List.nil_suffix
      · next rest => exact (statements_keeps steps d rest).of_suffix (List.suffix_cons _ _)
      · trivial

/-! Carriage returns are dropped only in front of a line feed, so what stands on one line stays together. -/

theorem prefix_of_unifyLineFeeds {run cs : List Char} (hrun : '\n' ∉ run) (h : run <+: unifyLineFeeds cs) :
    run <+: cs := by
  fun_induction unifyLineFeeds cs generalizing run with
  | case1 rest ih =>
    cases run with
    | nil => exact List.nil_prefix
    | cons c run =>
      obtain ⟨rfl, -⟩ := List.cons_prefix_cons.1 h
      exact absurd List.mem_cons_self hrun
  | case2 c rest _ ih =>
    cases run with
    | nil => exact List.nil_prefix
    | cons d run =>
      obtain ⟨rfl, htail⟩ := List.cons_prefix_cons.1 h
      exact List.cons_prefix_cons.2 ⟨rfl, ih (fun hmem => hrun (List.mem_cons_of_mem _ hmem)) htail⟩
  | case3 => exact h

/-- A stretch of a line stands in the text as it was before its line boundaries were unified. -/
theorem infix_of_unifyLineFeeds {run cs : List Char} (hrun : '\n' ∉ run) (h : run <:+: unifyLineFeeds cs) :
    run <:+: cs := by
  fun_induction unifyLineFeeds cs with
  | case1 rest ih =>
    rcases List.infix_cons_iff.1 h with hprefix | hinfix
    · refine (prefix_of_unifyLineFeeds hrun ?_).isInfix
      rwa [unifyLineFeeds]
    · exact (ih hinfix).trans (List.suffix_append ['\r', '\n'] rest).isInfix
  | case2 c rest hc ih =>
    rcases List.infix_cons_iff.1 h with hprefix | hinfix
    · refine (prefix_of_unifyLineFeeds hrun ?_).isInfix
      rwa [unifyLineFeeds]
      exact hc
    · exact (ih hinfix).trans (List.suffix_cons c rest).isInfix
  | case3 => exact h

theorem Overlong.of_unifyLineFeeds {cs : List Char} {limit : DigitLimitExceeded}
    (h : Overlong (unifyLineFeeds cs) limit) : Overlong cs limit := by
  cases limit with
  | writing => exact h
  | reading n =>
    obtain ⟨hn, run, hinfix, hrun, hcount⟩ := h
    refine ⟨hn, run, infix_of_unifyLineFeeds (fun hmem => ?_) hinfix, hrun, hcount⟩
    rcases hrun _ hmem with hdigit | hunderscore
    · exact absurd hdigit (by decide)
    · exact absurd hunderscore (by decide)

/-- A document that is not read because of a number holds more digits in a row than can be converted. -/
theorem overlong_of_parse {document : String} {limit : DigitLimitExceeded}
    (h : parse document = .error (.tooLong limit)) : Overlong document.toList limit := by
  have hkeeps := statements_keeps ((unifyLineFeeds document.toList).length + 1) .empty
    (unifyLineFeeds document.toList)
  unfold parse at h
  dsimp only at h
  split at h
  · cases h
  · next stop hstop =>
    rw [hstop] at hkeeps
    cases stop with
    | flaw flaw rest => cases h
    | tooLong limit =>
      cases h
      exact Overlong.of_unifyLineFeeds hkeeps

end SqlTidy.Toml
