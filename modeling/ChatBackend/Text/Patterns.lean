import Mathlib.Data.List.Basic
import Mathlib.Data.List.TakeWhile

/-!
# Patterns matched with backtracking

A regular expression with at most one group whose text is read.  A matcher
takes a continuation: it hands over the first way to match that the
continuation does not refuse, trying the longer repetition and the left
alternative first.  A search takes the leftmost position that matches.
-/

namespace Text

variable {Letter Result : Type*}

/-- A position in a text, and what the group has matched before it. -/
structure Position (Letter : Type*) where
  before : List Letter
  rest : List Letter
  group : Option (List Letter)
deriving DecidableEq, Repr

inductive Pattern (Letter : Type*) where
  | empty
  /-- `^` -/
  | start
  /-- One letter of a class. -/
  | oneOf (allowed : Letter → Bool)
  /-- Letters of a class, as many as possible. -/
  | many (allowed : Letter → Bool)
  | sequence (first second : Pattern Letter)
  | either (left right : Pattern Letter)
  /-- The group whose text is read. -/
  | grouped (inner : Pattern Letter)

namespace Pattern

/-- Repeat a class of letters, and give letters back while that is refused. -/
def repeated (allowed : Letter → Bool) (next : Position Letter → Option Result)
    (group : Option (List Letter)) :
    List Letter → List Letter → Option Result
  | before, [] => next ⟨before, [], group⟩
  | before, letter :: rest =>
      if allowed letter then
        (repeated allowed next group (before ++ [letter]) rest).or
          (next ⟨before, letter :: rest, group⟩)
      else next ⟨before, letter :: rest, group⟩

/-- Match from a position on, and continue. -/
def run : Pattern Letter → (Position Letter → Option Result) →
    Position Letter → Option Result
  | empty, next, position => next position
  | start, next, position =>
      if position.before.isEmpty then next position else none
  | oneOf allowed, next, ⟨before, rest, group⟩ =>
      match rest with
      | [] => none
      | letter :: rest =>
          if allowed letter then next ⟨before ++ [letter], rest, group⟩
          else none
  | many allowed, next, ⟨before, rest, group⟩ =>
      repeated allowed next group before rest
  | sequence first second, next, position =>
      first.run (second.run next) position
  | either left right, next, position =>
      (left.run next position).or (right.run next position)
  | grouped inner, next, position =>
      inner.run
        (fun after => next { after with
          group := some (after.before.drop position.before.length) })
        position

/-- The leftmost match from a position on. -/
def search (pattern : Pattern Letter) :
    List Letter → List Letter → Option (Position Letter)
  | before, [] => pattern.run some ⟨before, [], none⟩
  | before, letter :: rest =>
      (pattern.run some ⟨before, letter :: rest, none⟩).or
        (search pattern (before ++ [letter]) rest)

/-- What the group has matched in the leftmost match of a text. -/
def capture (pattern : Pattern Letter) (text : List Letter) :
    Option (List Letter) :=
  (pattern.search [] text).bind Position.group

/-! ### Derived patterns -/

def oneOrMore (allowed : Letter → Bool) : Pattern Letter :=
  sequence (oneOf allowed) (many allowed)

/-- A text as it stands. -/
def literal [DecidableEq Letter] (tag : List Letter) : Pattern Letter :=
  tag.foldr (fun expected pattern =>
    sequence (oneOf fun found => found = expected) pattern) empty

/-- A tag and behind it, in the group, letters of a class. -/
def tagged [DecidableEq Letter] (tag : List Letter)
    (allowed : Letter → Bool) : Pattern Letter :=
  sequence (literal tag) (grouped (oneOrMore allowed))

/-! ## Repetitions -/

section Repetitions

variable {allowed : Letter → Bool} {next : Position Letter → Option Result}
  {group : Option (List Letter)} {before rest : List Letter}

/-- The longest repetition is taken if the continuation accepts it. -/
theorem repeated_of_some {result : Result}
    (accepted : next ⟨before ++ rest.takeWhile allowed,
      rest.dropWhile allowed, group⟩ = some result) :
    repeated allowed next group before rest = some result := by
  induction rest generalizing before with
  | nil => simpa [repeated] using accepted
  | cons letter rest induction =>
      rw [repeated]
      split_ifs with fits
      · rw [List.takeWhile_cons_of_pos fits, List.dropWhile_cons_of_pos fits]
          at accepted
        rw [induction (by simpa using accepted), Option.some_or]
      · rw [List.takeWhile_cons_of_neg fits, List.dropWhile_cons_of_neg fits,
          List.append_nil] at accepted
        exact accepted

/-- Only the longest one is, if no letter of the class can come next. -/
theorem repeated_of_refused
    (refused : ∀ before letter rest, allowed letter →
      next ⟨before, letter :: rest, group⟩ = none) :
    repeated allowed next group before rest =
      next ⟨before ++ rest.takeWhile allowed, rest.dropWhile allowed,
        group⟩ := by
  induction rest generalizing before with
  | nil => simp [repeated]
  | cons letter rest induction =>
      rw [repeated]
      split_ifs with fits
      · rw [induction, refused before letter rest fits, Option.or_none,
          List.takeWhile_cons_of_pos fits, List.dropWhile_cons_of_pos fits,
          List.append_assoc, List.singleton_append]
      · rw [List.takeWhile_cons_of_neg fits, List.dropWhile_cons_of_neg fits,
          List.append_nil]

/-- At the end of a pattern a repetition takes all it can. -/
theorem run_grouped_oneOrMore :
    (grouped (oneOrMore allowed)).run some ⟨before, rest, group⟩ =
      if rest.takeWhile allowed = [] then none
      else some ⟨before ++ rest.takeWhile allowed, rest.dropWhile allowed,
        some (rest.takeWhile allowed)⟩ := by
  cases rest with
  | nil => rfl
  | cons letter rest =>
      by_cases fits : allowed letter
      · rw [List.takeWhile_cons_of_pos fits, List.dropWhile_cons_of_pos fits,
          if_neg (List.cons_ne_nil _ _)]
        simp only [run, oneOrMore, fits, if_true]
        apply repeated_of_some
        simp
      · rw [List.takeWhile_cons_of_neg fits, if_pos rfl]
        simp only [run, oneOrMore, fits]
        rfl

end Repetitions

/-! ## Tags -/

section Tags

variable [DecidableEq Letter] {tag before rest : List Letter}
  {next : Position Letter → Option Result} {group : Option (List Letter)}

theorem run_literal_append :
    (literal tag).run next ⟨before, tag ++ rest, group⟩ =
      next ⟨before ++ tag, rest, group⟩ := by
  induction tag generalizing before with
  | nil => simp [literal, run]
  | cons expected tag induction =>
      have inner := @induction (before ++ [expected])
      simpa [literal, run, List.append_assoc] using inner

theorem run_literal_of_not_prefix (other : ¬ tag <+: rest) :
    (literal tag).run next ⟨before, rest, group⟩ = none := by
  induction tag generalizing before rest with
  | nil => exact absurd List.nil_prefix other
  | cons expected tag induction =>
      cases rest with
      | nil => rfl
      | cons found rest =>
          change (if decide (found = expected) = true then
            (literal tag).run next ⟨before ++ [found], rest, group⟩
            else none) = none
          split_ifs with same
          · refine induction fun inner => other ?_
            rw [of_decide_eq_true same]
            exact (List.prefix_cons_inj expected).mpr inner
          · rfl

/-- The letters of the class that follow a tag at the head of a text. -/
def afterTag (tag : List Letter) (allowed : Letter → Bool)
    (text : List Letter) : Option (List Letter) :=
  if tag <+: text ∧ (text.drop tag.length).takeWhile allowed ≠ [] then
    some ((text.drop tag.length).takeWhile allowed)
  else none

variable {allowed : Letter → Bool}

theorem afterTag_append :
    afterTag tag allowed (tag ++ rest) =
      if rest.takeWhile allowed = [] then none
      else some (rest.takeWhile allowed) := by
  unfold afterTag
  rw [List.drop_left]
  by_cases none : rest.takeWhile allowed = []
  · rw [if_pos none, if_neg fun found => found.2 none]
  · rw [if_neg none, if_pos ⟨List.prefix_append tag rest, none⟩]

theorem afterTag_of_not_prefix (other : ¬ tag <+: rest) :
    afterTag tag allowed rest = none :=
  if_neg fun found => other found.1

theorem run_tagged_of_not_prefix (other : ¬ tag <+: rest) :
    (tagged tag allowed).run some ⟨before, rest, group⟩ = none :=
  run_literal_of_not_prefix other

theorem run_tagged :
    ((tagged tag allowed).run some ⟨before, rest, none⟩).map Position.group =
      (afterTag tag allowed rest).map some := by
  unfold tagged
  by_cases leads : tag <+: rest
  · obtain ⟨rest, rfl⟩ := leads
    rw [run, run_literal_append, run_grouped_oneOrMore, afterTag_append]
    split_ifs <;> rfl
  · rw [← tagged, run_tagged_of_not_prefix leads,
      afterTag_of_not_prefix leads]
    rfl

end Tags

/-! ## Searches -/

/-- The first position at which something is found. -/
def leftmost (find : List Letter → List Letter → Option Result) :
    List Letter → List Letter → Option Result
  | before, [] => find before []
  | before, letter :: rest =>
      (find before (letter :: rest)).or
        (leftmost find (before ++ [letter]) rest)

section Searches

variable {pattern : Pattern Letter} {before first rest : List Letter}
  {find : List Letter → List Letter → Option (List Letter)}

/-- A search finds what the pattern captures, as far to the left as it can. -/
theorem search_eq_leftmost
    (captures : ∀ before rest,
      (pattern.run some ⟨before, rest, none⟩).map Position.group =
        (find before rest).map some) :
    (pattern.search before rest).bind Position.group =
      leftmost find before rest := by
  have found (before rest : List Letter) :
      (pattern.run some ⟨before, rest, none⟩).bind Position.group =
        find before rest := by
    have here := congrArg (fun way => way.bind id) (captures before rest)
    simpa [Option.bind_map, Function.comp_def] using here
  induction rest generalizing before with
  | nil => exact found before []
  | cons letter rest induction =>
      have here := captures before (letter :: rest)
      have inner := found before (letter :: rest)
      rw [search, leftmost, ← induction]
      cases way : pattern.run some ⟨before, letter :: rest, none⟩ with
      | none =>
          rw [way] at inner
          rw [← inner]
          rfl
      | some after =>
          rw [way] at here inner
          rw [← inner]
          cases finds : find before (letter :: rest) with
          | none =>
              rw [finds] at here
              cases here
          | some group =>
              rw [finds] at here
              have grouped : after.group = some group :=
                Option.some.inj here
              rw [Option.some_or, Option.bind_some, grouped, Option.some_or]

theorem leftmost_cons_of_none {letter : Letter}
    (nothing : find before (letter :: rest) = none) :
    leftmost find before (letter :: rest) =
      leftmost find (before ++ [letter]) rest := by
  rw [leftmost, nothing, Option.none_or]

/-- What finds nothing at the letters of a part goes on behind the part. -/
theorem leftmost_append
    (nothing : ∀ early, ∀ letter ∈ first, ∀ late,
      find (before ++ early) (letter :: late) = none) :
    leftmost find before (first ++ rest) =
      leftmost find (before ++ first) rest := by
  induction first generalizing before with
  | nil => rw [List.nil_append, List.append_nil]
  | cons letter first induction =>
      have here := nothing [] letter List.mem_cons_self (first ++ rest)
      rw [List.append_nil] at here
      rw [List.cons_append, leftmost_cons_of_none here, induction,
        List.append_assoc, List.singleton_append]
      intro early other member late
      rw [List.append_assoc, List.singleton_append]
      exact nothing (letter :: early) other (List.mem_cons_of_mem _ member) late

theorem leftmost_of_some {group : List Letter}
    (found : find before rest = some group) :
    leftmost find before rest = some group := by
  cases rest with
  | nil => exact found
  | cons letter rest => rw [leftmost, found, Option.some_or]

end Searches

end Pattern

end Text
