import MaterialPipeline.Proofs.Feature.Numbered
import Mathlib.Data.List.Basic

/-!
# Proofs — Text — Words

The identifiers of a program text: the longest runs of letters, digits and underscores that do not
begin with a digit.

* `identifiers_append`: two texts that do not run into each other have the identifiers of both.
* `identifiers_of_word`, `identifiers_indexedName`: a word has itself.
* `introduced`: the names that follow the word `let`.
-/

namespace MaterialPipeline.Words

/-- Whether a character can be part of a word. -/
def isPart (c : Char) : Bool :=
  c.isAlphanum || c == '_'

/-- A run of characters, unless it is empty. -/
def flush (run : List Char) : List (List Char) :=
  if run.isEmpty then [] else [run.reverse]

/-- The runs of word characters, the first of which begins with those of `run` in reverse. -/
def runs (run : List Char) : List Char → List (List Char)
  | [] => flush run
  | c :: rest => if isPart c then runs (c :: run) rest else flush run ++ runs [] rest

/-- The identifiers among some characters, in order. -/
def identifiersOf (chars : List Char) : List String :=
  ((runs [] chars).filter fun run => !run.head?.any Char.isDigit).map String.ofList

/-- The identifiers of a text, in order. -/
def identifiers (text : String) : List String :=
  identifiersOf text.toList

/-- The identifiers of a text that is written out. -/
theorem identifiers_ofList (chars : List Char) :
    identifiers (String.ofList chars) = identifiersOf chars := by
  rw [identifiers, String.toList_ofList]

/-! ### Texts together -/

theorem runs_cons_of_not_isPart {c : Char} (hc : isPart c = false) (run rest : List Char) :
    runs run (c :: rest) = flush run ++ runs [] rest := by
  rw [runs, hc, if_neg Bool.false_ne_true]

/-- A character that is no part of a word ends a run. -/
theorem runs_append_cons {c : Char} (hc : isPart c = false) (run a b : List Char) :
    runs run (a ++ c :: b) = runs run a ++ runs [] (c :: b) := by
  induction a generalizing run with
  | nil => rw [List.nil_append, runs_cons_of_not_isPart hc, runs_cons_of_not_isPart hc]; rfl
  | cons d a ih =>
      rw [List.cons_append, runs, runs]
      split
      · exact ih _
      · rw [ih, List.append_assoc]

/-- Whether no word runs on into the next text. -/
def endsApart (text : String) : Bool :=
  text.toList.getLast?.all (!isPart ·)

/-- Whether no word runs on from the text before. -/
def beginsApart (text : String) : Bool :=
  text.toList.head?.all (!isPart ·)

theorem ends_ofList {chars : List Char} (h : chars.getLast?.all (!isPart ·) = true) :
    endsApart (String.ofList chars) = true := by
  rwa [endsApart, String.toList_ofList]

theorem begins_ofList {chars : List Char} (h : chars.head?.all (!isPart ·) = true) :
    beginsApart (String.ofList chars) = true := by
  rwa [beginsApart, String.toList_ofList]

theorem runs_append_of_begins {a b : List Char} (h : b.head?.all (!isPart ·) = true) :
    runs [] (a ++ b) = runs [] a ++ runs [] b := by
  cases b with
  | nil => rw [List.append_nil]; exact (List.append_nil _).symm
  | cons c b => exact runs_append_cons (by simpa using h) [] a b

theorem runs_append_of_ends {a b : List Char} (h : a.getLast?.all (!isPart ·) = true) :
    runs [] (a ++ b) = runs [] a ++ runs [] b := by
  rcases List.eq_nil_or_concat a with rfl | ⟨before, c, rfl⟩
  · rfl
  · have hc : isPart c = false := by simpa using h
    rw [List.concat_eq_append, List.append_assoc, List.singleton_append, runs_append_cons hc,
      runs_append_cons hc, runs_cons_of_not_isPart hc, runs_cons_of_not_isPart hc,
      List.append_assoc]
    rfl

/-- Texts that do not run into each other have the identifiers of both. -/
theorem identifiers_append {a b : String} (h : endsApart a = true ∨ beginsApart b = true) :
    identifiers (a ++ b) = identifiers a ++ identifiers b := by
  have hruns : runs [] (a.toList ++ b.toList) = runs [] a.toList ++ runs [] b.toList :=
    h.elim runs_append_of_ends runs_append_of_begins
  simp only [identifiers, identifiersOf, String.toList_append, hruns, List.filter_append,
    List.map_append]

theorem endsApart_append {a b : String} (hne : b ≠ "") (h : endsApart b = true) :
    endsApart (a ++ b) = true := by
  have hb : b.toList ≠ [] := fun e => hne (String.toList_injective e)
  rw [endsApart, String.toList_append, List.getLast?_append_of_ne_nil _ hb]
  exact h

/-- A text between two others, which do not run into it. -/
theorem identifiers_between {a name b : String} (ha : endsApart a = true)
    (hb : beginsApart b = true) :
    identifiers (a ++ name ++ b) = identifiers a ++ identifiers name ++ identifiers b := by
  rw [identifiers_append (.inr hb), identifiers_append (.inl ha)]

theorem identifiers_join {texts : List String} (h : ∀ text ∈ texts, endsApart text = true) :
    identifiers (String.join texts) = texts.flatMap identifiers := by
  induction texts with
  | nil => rfl
  | cons text texts ih =>
      obtain ⟨hfirst, hrest⟩ := List.forall_mem_cons.mp h
      rw [String.join_cons, identifiers_append (.inl hfirst), ih hrest, List.flatMap_cons]

/-! ### Words -/

/-- A text that is an identifier. -/
def IsWord (text : String) : Prop :=
  text.toList.all isPart = true ∧ text.toList.head?.any (!·.isDigit) = true

theorem isWord_ofList {chars : List Char} (hall : chars.all isPart = true)
    (hhead : chars.head?.any (!·.isDigit) = true) : IsWord (String.ofList chars) := by
  rw [IsWord, String.toList_ofList]
  exact ⟨hall, hhead⟩

theorem runs_of_all {chars run : List Char} (h : chars.all isPart = true) :
    runs run chars = flush (chars.reverse ++ run) := by
  induction chars generalizing run with
  | nil => rfl
  | cons c chars ih =>
      obtain ⟨hc, hchars⟩ := Bool.and_eq_true_iff.mp (List.all_cons.symm.trans h)
      rw [runs, hc, if_pos rfl, ih hchars, List.reverse_cons, List.append_assoc]
      rfl

/-- A word has itself as its only identifier. -/
theorem identifiers_of_word {text : String} (h : IsWord text) : identifiers text = [text] := by
  obtain ⟨hall, hhead⟩ := h
  have hne : text.toList.reverse.isEmpty = false := by
    cases hchars : text.toList with
    | nil => rw [hchars] at hhead; cases hhead
    | cons => simp
  rw [identifiers, identifiersOf, runs_of_all hall, List.append_nil, flush, hne,
    if_neg Bool.false_ne_true, List.reverse_reverse]
  have hkeep : (!text.toList.head?.any Char.isDigit) = true := by
    cases hchars : text.toList with
    | nil => rfl
    | cons c chars =>
        rw [hchars] at hhead
        simpa using hhead
  rw [List.filter_cons_of_pos (by exact hkeep), List.filter_nil, List.map_singleton,
    String.ofList_toList]

theorem isPart_of_isDigit {c : Char} (h : c.isDigit = true) : isPart c = true := by
  simp [isPart, Char.isAlphanum, h]

/-- A word stays one with a number. -/
theorem isWord_indexedName {base : String} (h : IsWord base) (number : Option Nat) :
    IsWord (Scope.indexedName number base) := by
  obtain ⟨hall, hhead⟩ := h
  rw [IsWord, Scope.toList_indexedName, List.all_append, List.head?_append]
  refine ⟨?_, ?_⟩
  · rw [hall, Bool.true_and, List.all_eq_true]
    exact fun c hc => isPart_of_isDigit (Scope.isDigit_of_mem_digits hc)
  · cases hchars : base.toList with
    | nil => rw [hchars] at hhead; cases hhead
    | cons c chars => rw [hchars] at hhead; exact hhead

theorem identifiers_indexedName {base : String} (h : IsWord base) (number : Option Nat) :
    identifiers (Scope.indexedName number base) = [Scope.indexedName number base] :=
  identifiers_of_word (isWord_indexedName h number)

/-! ### Introduced names -/

/-- The names that come after the word `let`. -/
def introduced : List String → List String
  | [] => []
  | word :: rest => (if word = "let" then rest.head?.toList else []) ++ introduced rest

theorem introduced_cons_of_ne {word : String} (h : word ≠ "let") (rest : List String) :
    introduced (word :: rest) = introduced rest := by
  rw [introduced, if_neg h, List.nil_append]

/-- Words that do not end in `let` introduce the same names whatever comes after them. -/
theorem introduced_append {a b : List String} (h : a.getLast? ≠ some "let") :
    introduced (a ++ b) = introduced a ++ introduced b := by
  induction a with
  | nil => rfl
  | cons word a ih =>
      rw [List.cons_append, introduced, introduced, List.append_assoc]
      cases a with
      | nil =>
          have hword : word ≠ "let" := fun e => h (congrArg some e)
          rw [if_neg hword, if_neg hword]
          rfl
      | cons next a => exact congrArg₂ _ rfl (ih fun e => h (List.getLast?_cons_cons.trans e))

/-- Lists of words that do not end in `let` introduce what each of them does. -/
theorem introduced_flatMap_append {α : Type} {l : List α} {f : α → List String}
    (h : ∀ a ∈ l, (f a).getLast? ≠ some "let") (rest : List String) :
    introduced (l.flatMap f ++ rest) =
      l.flatMap (fun a => introduced (f a)) ++ introduced rest := by
  induction l with
  | nil => rfl
  | cons a l ih =>
      obtain ⟨hfirst, hothers⟩ := List.forall_mem_cons.mp h
      rw [List.flatMap_cons, List.flatMap_cons, List.append_assoc, introduced_append hfirst,
        ih hothers, List.append_assoc]

theorem introduced_of_not_mem {words : List String} (h : "let" ∉ words) :
    introduced words = [] := by
  induction words with
  | nil => rfl
  | cons word words ih =>
      rw [List.mem_cons, not_or] at h
      rw [introduced_cons_of_ne (Ne.symm h.1), ih h.2]

end MaterialPipeline.Words
