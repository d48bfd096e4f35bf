/-!
# Readers of text

A reader takes a beginning of a text and gives what it stands for, or refuses the text. Readers are
put together from those of single characters: one of several, one after another, any number of
them, and a list with separators. Where readers are repeated, each one must take something, so that
the repetition comes to an end.
-/

namespace DocQuery

/-- Reads a beginning of a text. -/
structure Reader (α : Type) where
  /-- What was read and the rest of the text, unless the text is refused. -/
  read : List Char → Option (α × List Char)
  /-- The rest is an end of the text. -/
  suffix : ∀ {input a rest}, read input = some (a, rest) → rest <:+ input

namespace Reader

variable {α β : Type}

/-- Reads a character that passes a test. -/
def charIf (test : Char → Bool) : Reader Char where
  read
    | [] => none
    | c :: rest => if test c then some (c, rest) else none
  suffix {input c rest} h := by
    cases input with
    | nil => cases h
    | cons head tail =>
      obtain ⟨-, htaken⟩ := Option.ite_none_right_eq_some.mp h
      cases htaken
      exact List.suffix_cons _ _

/-- Reads one character, the given one. -/
def char (c : Char) : Reader Char := charIf (· == c)

/-- Reads one character, whichever it is. -/
def anyChar : Reader Char := charIf fun _ => true

/-- Reads one character that is none of the given ones. -/
def noneOf (chars : List Char) : Reader Char := charIf fun c => !chars.contains c

/-- Reads with the first of several readers that does not refuse the text. -/
def firstOf (readers : List (Reader α)) : Reader α where
  read input := readers.findSome? fun reader => reader.read input
  suffix h := by
    obtain ⟨reader, -, hread⟩ := List.exists_of_findSome?_eq_some h
    exact reader.suffix hread

/-- Reads with one reader after another, and gives what the second one reads. -/
def after (first : Reader α) (second : Reader β) : Reader β where
  read input := (first.read input).bind fun (_, rest) => second.read rest
  suffix h := by
    obtain ⟨⟨a, rest⟩, hfirst, hsecond⟩ := Option.bind_eq_some_iff.mp h
    exact (second.suffix hsecond).trans (first.suffix hfirst)

-- The two recursions are on the length of the text. They stay reducible, so that the readers can be
-- evaluated on given texts.

/-- Goes on from what was read so far, until an item is refused. An item that takes nothing is an
error. -/
@[semireducible] def foldFrom (item : Reader α) (step : β → α → β) (soFar : β)
    (input : List Char) : Option (β × List Char) :=
  match item.read input with
  | none => some (soFar, input)
  | some (a, rest) =>
    if rest.length < input.length then foldFrom item step (step soFar a) rest else none
termination_by input.length

/-- Reads items, as many as there are, and puts them together one by one. -/
def foldMany (item : Reader α) (step : β → α → β) (start : β) : Reader β where
  read := foldFrom item step start
  suffix {input b rest} h := by
    fun_induction foldFrom item step start input with
    | case1 soFar input hnone =>
      cases h
      exact List.suffix_refl _
    | case2 soFar input a next hread _ ih => exact (ih h).trans (item.suffix hread)
    | case3 soFar input a next hread _ => cases h

/-- At an item that is refused, what was read so far is the result. -/
theorem foldFrom_of_refused {item : Reader α} {input : List Char} (h : item.read input = none)
    (step : β → α → β) (soFar : β) : foldFrom item step soFar input = some (soFar, input) := by
  rw [foldFrom, h]

/-- After an item that is read, reading goes on with it. -/
theorem foldFrom_of_read {item : Reader α} {input rest : List Char} {a : α}
    (h : item.read input = some (a, rest)) (hless : rest.length < input.length)
    (step : β → α → β) (soFar : β) :
    foldFrom item step soFar input = foldFrom item step (step soFar a) rest := by
  rw [foldFrom, h]
  exact if_pos hless

/-- The further items of a list, each after a separator. A separator without an item after it is
left, and one that takes nothing is an error. -/
@[semireducible] def furtherFrom (separator : Reader α) (item : Reader β) (input : List Char) :
    Option (List β × List Char) :=
  match separator.read input with
  | none => some ([], input)
  | some (_, rest) =>
    if rest.length < input.length then
      match hitem : item.read rest with
      | none => some ([], input)
      | some (b, next) =>
        have := (item.suffix hitem).length_le
        (furtherFrom separator item next).map fun (bs, last) => (b :: bs, last)
    else none
termination_by input.length

/-- What is left of further items is an end of the text. -/
theorem furtherFrom_suffix {separator : Reader α} {item : Reader β} {input rest : List Char}
    {bs : List β} (h : furtherFrom separator item input = some (bs, rest)) : rest <:+ input := by
  fun_induction furtherFrom separator item input generalizing bs with
  | case1 input hnone =>
    cases h
    exact List.suffix_refl _
  | case2 input a afterSeparator hseparator _ hnone =>
    cases h
    exact List.suffix_refl _
  | case3 input a afterSeparator hseparator _ b next hitem _ ih =>
    obtain ⟨⟨more, last⟩, hmore, hresult⟩ := Option.map_eq_some_iff.mp h
    cases hresult
    exact (ih hmore).trans ((item.suffix hitem).trans (separator.suffix hseparator))
  | case4 input a afterSeparator hseparator _ => cases h

/-- Reads a list of at least one item with separators between the items. -/
def separated (separator : Reader α) (item : Reader β) : Reader (List β) where
  read input := (item.read input).bind fun (b, rest) =>
    (furtherFrom separator item rest).map fun (bs, last) => (b :: bs, last)
  suffix h := by
    obtain ⟨⟨b, next⟩, hfirst, hfurther⟩ := Option.bind_eq_some_iff.mp h
    obtain ⟨⟨bs, last⟩, hmore, hresult⟩ := Option.map_eq_some_iff.mp hfurther
    cases hresult
    exact (furtherFrom_suffix hmore).trans (item.suffix hfirst)

/-- Without a separator there are no further items. -/
theorem furtherFrom_of_refused {separator : Reader α} {item : Reader β} {input : List Char}
    (h : separator.read input = none) : furtherFrom separator item input = some ([], input) := by
  rw [furtherFrom, h]

/-- A separator and an item come before the further items after them. -/
theorem furtherFrom_of_read {separator : Reader α} {item : Reader β}
    {input rest next last : List Char} {a : α} {b : β} {bs : List β}
    (hseparator : separator.read input = some (a, rest)) (hless : rest.length < input.length)
    (hitem : item.read rest = some (b, next))
    (hfurther : furtherFrom separator item next = some (bs, last)) :
    furtherFrom separator item input = some (b :: bs, last) := by
  rw [furtherFrom, hseparator]
  simp only [if_pos hless]
  split
  next hrefused =>
    rw [hitem] at hrefused
    cases hrefused
  next b' next' hread =>
    rw [hitem] at hread
    cases hread
    rw [hfurther, Option.map_some]

/-- A list is its first item and the further ones. -/
theorem separated_read {separator : Reader α} {item : Reader β} {input next last : List Char}
    {b : β} {bs : List β} (hitem : item.read input = some (b, next))
    (hfurther : furtherFrom separator item next = some (bs, last)) :
    (separated separator item).read input = some (b :: bs, last) :=
  Option.bind_eq_some_iff.mpr ⟨(b, next), hitem, Option.map_eq_some_iff.mpr ⟨_, hfurther, rfl⟩⟩

/-- What a whole text is read as. -/
def readAll (reader : Reader α) (input : List Char) : Option α :=
  match reader.read input with
  | some (a, []) => some a
  | _ => none

end Reader

end DocQuery
