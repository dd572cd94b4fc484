import RowEngine.Proofs.Regex.Meaning
import RowEngine.Regex.Plain

/-!
# The engine for sequences of terms

What the engine reads in a regular expression are the terms it was spelled from, and the places it
finds in a text are those from which terms can be read.
-/

namespace RowEngine.Regex

/-- The places of a text are the ways of cutting it in two. -/
theorem mem_placesFrom {i : Nat} {text : List Char} {p : Place} :
    p ∈ placesFrom i text ↔ ∃ run, text = run ++ p.after ∧ p.before = i + run.length := by
  induction text generalizing i with
  | nil =>
    obtain ⟨before, after⟩ := p
    simp [placesFrom, and_comm]
  | cons c text ih =>
    rw [placesFrom, List.mem_cons, ih]
    constructor
    · rintro (rfl | ⟨run, rfl, hbefore⟩)
      · exact ⟨[], rfl, rfl⟩
      · exact ⟨c :: run, rfl, by rw [hbefore, List.length_cons]; omega⟩
    · rintro ⟨run, htext, hbefore⟩
      obtain ⟨rfl, hafter⟩ | ⟨run, rfl, rfl⟩ := List.cons_eq_append_iff.mp htext
      · exact .inl (Place.ext_iff.mpr ⟨hbefore, hafter⟩)
      · exact .inr ⟨run, rfl, by rw [hbefore, List.length_cons]; omega⟩

/-- A place leads to the places that are reached by reading characters from there on. -/
def Leads (reads : Char → Bool) (p q : Place) : Prop :=
  ∃ run, p.after = run ++ q.after ∧ (∀ c ∈ run, reads c = true) ∧ q.before = p.before + run.length

variable {reads : Char → Bool} {mode : Mode} {places : List Place} {text : List Char} {i : Nat}
  {c : Char} {p q : Place}

theorem leads_cons : Leads reads ⟨i, c :: text⟩ q ↔
    q = ⟨i, c :: text⟩ ∨ reads c = true ∧ Leads reads ⟨i + 1, text⟩ q := by
  constructor
  · rintro ⟨run, htext, hrun, hbefore⟩
    obtain ⟨rfl, hafter⟩ | ⟨run, rfl, rfl⟩ := List.cons_eq_append_iff.mp htext
    · exact .inl (Place.ext_iff.mpr ⟨hbefore, hafter⟩)
    · obtain ⟨hc, hrun⟩ := List.forall_mem_cons.mp hrun
      exact .inr ⟨hc, run, rfl, hrun, by rw [hbefore, List.length_cons]; dsimp only; omega⟩
  · rintro (rfl | ⟨hc, run, rfl, hrun, hbefore⟩)
    · exact ⟨[], rfl, by simp, rfl⟩
    · exact ⟨c :: run, rfl, List.forall_mem_cons.mpr ⟨hc, hrun⟩,
        by rw [hbefore, List.length_cons]; dsimp only; omega⟩

theorem leads_nil : Leads reads ⟨i, []⟩ q ↔ q = ⟨i, []⟩ := by
  constructor
  · rintro ⟨run, htext, -, hbefore⟩
    obtain ⟨rfl, hafter⟩ := List.append_eq_nil_iff.mp htext.symm
    exact Place.ext_iff.mpr ⟨hbefore, hafter⟩
  · rintro rfl
    exact ⟨[], rfl, by simp, rfl⟩

/-- Of places in their order, only the first can be the one they all lie at or after. -/
theorem sublist_placesFrom_cons (h : places.Sublist (placesFrom i (c :: text))) :
    ∃ later, later.Sublist (placesFrom (i + 1) text) ∧
      (if isAt i places then places.tail else places) = later ∧
      ((isAt i places = true ∧ places = ⟨i, c :: text⟩ :: later) ∨
        isAt i places = false ∧ places = later) := by
  rw [placesFrom] at h
  cases h with
  | cons _ h =>
    have hat : isAt i places = false := by
      cases places with
      | nil => rfl
      | cons p later =>
        obtain ⟨run, -, hbefore⟩ := mem_placesFrom.mp (h.subset (.head later))
        simp only [isAt, List.head?_cons, Option.any_some, beq_eq_false_iff_ne]
        omega
    exact ⟨places, h, by simp [hat], .inr ⟨hat, rfl⟩⟩
  | @cons_cons later _ _ h =>
    have hat : isAt i (⟨i, c :: text⟩ :: later) = true := by simp [isAt]
    exact ⟨later, h, by simp [hat], .inl ⟨hat, rfl⟩⟩

/-- One walk over the text finds all that the given places lead to. -/
theorem mem_spread (carried : Bool) (h : places.Sublist (placesFrom i text)) :
    q ∈ spread reads carried i text places ↔
      carried = true ∧ Leads reads ⟨i, text⟩ q ∨ ∃ p ∈ places, Leads reads p q := by
  induction text generalizing i carried places with
  | nil =>
    have hplaces : places = [] ∨ places = [⟨i, []⟩] := by
      cases h with
      | cons _ h => exact .inl (List.sublist_nil.mp h)
      | cons_cons _ h => exact .inr (by rw [List.sublist_nil.mp h])
    rcases hplaces with rfl | rfl <;> cases carried <;> simp [spread, isAt, leads_nil]
  | cons c text ih =>
    obtain ⟨later, hlater, htail, hplaces⟩ := sublist_placesFrom_cons h
    rw [spread, htail]
    have hrest := ih ((carried || isAt i places) && reads c) hlater
    rcases hplaces with ⟨hat, rfl⟩ | ⟨hat, rfl⟩
    · rw [hat, Bool.or_true, if_pos rfl, List.mem_cons, Bool.true_and]
      rw [hat, Bool.or_true, Bool.true_and] at hrest
      rw [hrest, leads_cons]
      simp only [List.mem_cons, exists_eq_or_imp, leads_cons]
      grind
    · rw [hat, Bool.or_false]
      rw [hat, Bool.or_false] at hrest
      cases carried with
      | true =>
        rw [if_pos rfl, List.mem_cons, hrest, leads_cons, Bool.true_and]
        grind
      | false => simpa using hrest

/-- Places are kept in the order of the text, each once. -/
theorem spread_sublist (carried : Bool) (h : places.Sublist (placesFrom i text)) :
    (spread reads carried i text places).Sublist (placesFrom i text) := by
  induction text generalizing i carried places with
  | nil =>
    rw [spread]
    split
    · exact .refl _
    · exact List.nil_sublist _
  | cons c text ih =>
    obtain ⟨later, hlater, htail, -⟩ := sublist_placesFrom_cons h
    rw [spread, placesFrom, htail]
    split
    · exact (ih _ hlater).cons_cons _
    · exact (ih _ hlater).cons _

/-- Terms can be read from one of the places that were found in a text. -/
def FoundAt (mode : Mode) (terms : List Term) (text : List Char) (places : List Place) : Prop :=
  ∃ before after, text = before ++ after ∧ ⟨before.length, after⟩ ∈ places ∧
    Reads mode terms before after

theorem eq_append_of_mem (h : places.Sublist (placesFrom 0 text)) (hp : p ∈ places) :
    ∃ before, text = before ++ p.after ∧ p = ⟨before.length, p.after⟩ := by
  obtain ⟨before, htext, hbefore⟩ := mem_placesFrom.mp (h.subset hp)
  exact ⟨before, htext, Place.ext_iff.mpr ⟨by rw [hbefore, Nat.zero_add], rfl⟩⟩

/-- What was read up to a place that a run leads to splits into what was read before and the run. -/
theorem exists_before_of_mem (h : places.Sublist (placesFrom 0 text)) (hp : p ∈ places)
    {before run after : List Char} (htext : text = before ++ after)
    (hafter : p.after = run ++ after) : ∃ earlier, before = earlier ++ run ∧
      text = earlier ++ (run ++ after) ∧ ⟨earlier.length, run ++ after⟩ ∈ places := by
  obtain ⟨earlier, hsplit, hplace⟩ := eq_append_of_mem h hp
  rw [hafter] at hsplit hplace
  refine ⟨earlier, ?_, hsplit, hplace ▸ hp⟩
  rw [htext, ← List.append_assoc] at hsplit
  exact List.append_cancel_right hsplit

theorem placesFrom_eq_cons (i : Nat) (text : List Char) :
    placesFrom i text = ⟨i, text⟩ :: (placesFrom i text).tail := by cases text <;> rfl

theorem filterMap_next?_sublist (reads : Char → Bool) (i : Nat) (text : List Char) :
    ((placesFrom i text).filterMap (Place.next? reads)).Sublist (placesFrom i text).tail := by
  induction text generalizing i with
  | nil => exact List.nil_sublist _
  | cons c text ih =>
    have hplaces : (placesFrom i (c :: text)).tail = ⟨i + 1, text⟩ :: (placesFrom (i + 1) text).tail :=
      placesFrom_eq_cons (i + 1) text
    rw [hplaces, placesFrom, List.filterMap_cons, Place.next?]
    cases reads c with
    | false => exact (ih (i + 1)).cons _
    | true => exact (ih (i + 1)).cons_cons _

theorem sublist_placesFrom_head {later : List Place}
    (h : (p :: later).Sublist (placesFrom i text)) :
    (p :: later).Sublist (placesFrom p.before p.after) ∧
      (placesFrom p.before p.after).Sublist (placesFrom i text) := by
  induction text generalizing i with
  | nil =>
    obtain rfl := List.mem_singleton.mp (h.subset (.head later))
    exact ⟨h, .refl _⟩
  | cons c text ih =>
    rw [placesFrom] at h
    cases h with
    | cons _ h => exact ⟨(ih h).1, (ih h).2.cons _⟩
    | cons_cons _ h => exact ⟨h.cons_cons _, .refl _⟩

theorem advance_sublist (term : Term) (h : places.Sublist (placesFrom 0 text)) :
    (advance mode term places).Sublist (placesFrom 0 text) := by
  cases term with
  | one a =>
    exact (h.filterMap _).trans ((filterMap_next?_sublist _ 0 text).trans (List.tail_sublist _))
  | star a =>
    cases places with
    | nil => exact List.nil_sublist _
    | cons p later =>
      obtain ⟨hlater, hplaces⟩ := sublist_placesFrom_head h
      exact (spread_sublist false hlater).trans hplaces
  | start => exact List.filter_sublist.trans h
  | stop => exact List.filter_sublist.trans h

theorem mem_advance_star {a : Atom} (h : places.Sublist (placesFrom 0 text)) :
    q ∈ advance mode (.star a) places ↔ ∃ p ∈ places, Leads (a.reads mode) p q := by
  cases places with
  | nil => simp [advance]
  | cons p later =>
    rw [advance, mem_spread false (sublist_placesFrom_head h).1]
    simp

theorem next?_eq_some : p.next? reads = some q ↔
    ∃ c rest, p.after = c :: rest ∧ reads c = true ∧ q = ⟨p.before + 1, rest⟩ := by
  obtain ⟨before, after⟩ := p
  cases after with
  | nil => simp [Place.next?]
  | cons c rest =>
    rw [Place.next?]
    constructor
    · intro h
      split at h
      · rename_i hc
        exact ⟨c, rest, rfl, hc, (Option.some.inj h).symm⟩
      · cases h
    · rintro ⟨_, _, ⟨⟩, hc, rfl⟩
      exact if_pos hc

/-- To find a sequence is to find its rest from the places that its first term leads to. -/
theorem foundAt_advance (term : Term) (terms : List Term)
    (h : places.Sublist (placesFrom 0 text)) :
    FoundAt mode (term :: terms) text places ↔
      FoundAt mode terms text (advance mode term places) := by
  cases term with
  | one a =>
    constructor
    · rintro ⟨before, after, htext, hmem, c, rest, rfl, hc, hreads⟩
      refine ⟨before ++ [c], rest, by rw [htext, List.append_cons], ?_, hreads⟩
      exact List.mem_filterMap.mpr ⟨_, hmem, next?_eq_some.mpr ⟨c, rest, rfl, hc, by simp⟩⟩
    · rintro ⟨before, after, htext, hmem, hreads⟩
      obtain ⟨p, hp, hnext⟩ := List.mem_filterMap.mp hmem
      obtain ⟨c, rest, hafter, hc, hplace⟩ := next?_eq_some.mp hnext
      obtain ⟨-, rfl⟩ := Place.mk.inj hplace
      have hrun : p.after = [c] ++ after := hafter
      obtain ⟨earlier, rfl, hsplit, hmem⟩ := exists_before_of_mem h hp htext hrun
      exact ⟨earlier, c :: after, hsplit, hmem, c, after, rfl, hc, hreads⟩
  | star a =>
    unfold FoundAt
    simp only [mem_advance_star h]
    constructor
    · rintro ⟨before, _, htext, hmem, run, rest, rfl, hrun, hreads⟩
      exact ⟨before ++ run, rest, by rw [htext, List.append_assoc],
        ⟨_, hmem, run, rfl, hrun, List.length_append⟩, hreads⟩
    · rintro ⟨before, after, htext, ⟨p, hp, run, hafter, hrun, -⟩, hreads⟩
      obtain ⟨earlier, rfl, hsplit, hmem⟩ := exists_before_of_mem h hp htext hafter
      exact ⟨earlier, run ++ after, hsplit, hmem, run, after, rfl, hrun, hreads⟩
  | start =>
    constructor
    · rintro ⟨before, after, htext, hmem, rfl, hreads⟩
      exact ⟨[], after, htext, List.mem_filter.mpr ⟨hmem, rfl⟩, hreads⟩
    · rintro ⟨before, after, htext, hmem, hreads⟩
      obtain ⟨hmem, hbefore⟩ := List.mem_filter.mp hmem
      exact ⟨before, after, htext, hmem, by simpa using hbefore, hreads⟩
  | stop =>
    constructor
    · rintro ⟨before, after, htext, hmem, rfl, hreads⟩
      exact ⟨before, [], htext, List.mem_filter.mpr ⟨hmem, rfl⟩, hreads⟩
    · rintro ⟨before, after, htext, hmem, hreads⟩
      obtain ⟨hmem, hafter⟩ := List.mem_filter.mp hmem
      exact ⟨before, after, htext, hmem, by simpa using hafter, hreads⟩

theorem foundAt_nil (h : places.Sublist (placesFrom 0 text)) :
    FoundAt mode [] text places ↔ places ≠ [] := by
  constructor
  · rintro ⟨before, after, -, hmem, -⟩
    exact List.ne_nil_of_mem hmem
  · intro hne
    obtain ⟨p, hp⟩ := List.exists_mem_of_ne_nil _ hne
    obtain ⟨before, htext, hp'⟩ := eq_append_of_mem h hp
    exact ⟨before, p.after, htext, hp' ▸ hp, trivial⟩

theorem foundAt_foldl (terms : List Term) (h : places.Sublist (placesFrom 0 text)) :
    FoundAt mode terms text places ↔
      terms.foldl (fun places term => advance mode term places) places ≠ [] := by
  induction terms generalizing places with
  | nil => exact foundAt_nil h
  | cons term terms ih =>
    rw [foundAt_advance term terms h, ih (advance_sublist term h), List.foldl_cons]

/-- The matcher accepts just the texts in which the terms are found. -/
theorem isMatch_ofTerms {terms : List Term} {text : String} :
    (ofTerms mode terms).isMatch text = true ↔ Found mode terms text.toList := by
  have hfound : FoundAt mode terms text.toList (placesFrom 0 text.toList) ↔
      Found mode terms text.toList := by
    constructor
    · rintro ⟨before, after, htext, -, hreads⟩
      exact ⟨before, after, htext, hreads⟩
    · rintro ⟨before, after, htext, hreads⟩
      exact ⟨before, after, htext,
        mem_placesFrom.mpr ⟨before, htext, (Nat.zero_add _).symm⟩, hreads⟩
  rw [← hfound, foundAt_foldl terms (.refl _)]
  simp [ofTerms]

/-- An escaped character is read as itself. -/
theorem tokens?_escapeChar (c : Char) (rest : List Char) :
    tokens? (escapeChar c ++ rest) = (tokens? rest).map (.atom (.literal c) :: ·) := by
  unfold escapeChar
  split
  · rename_i hc
    rw [List.cons_append, List.singleton_append, tokens?, if_pos hc]
  · rename_i hc
    have hliteral : c ≠ '^' ∧ c ≠ '$' ∧ c ≠ '*' ∧ c ≠ '.' ∧ c ≠ '\\' := by
      refine ⟨?_, ?_, ?_, ?_, ?_⟩ <;> exact ne_of_mem_of_not_mem (by decide) hc |>.symm
    rw [List.singleton_append, tokens?, if_neg hc]
    all_goals simp [hliteral]

def Term.tokens : Term → List Token
  | one a => [.atom a]
  | star a => [.atom a, .repeated]
  | start => [.start]
  | stop => [.stop]

theorem toList_escape_singleton (c : Char) :
    (escape (String.singleton c)).toList = escapeChar c := by
  simp [escape]

theorem tokens?_spell (term : Term) (rest : List Char) :
    tokens? (term.spell escape ++ rest) =
      (tokens? rest).map (term.tokens ++ ·) := by
  have hatom (a : Atom) (rest : List Char) :
      tokens? (a.spell escape ++ rest) = (tokens? rest).map (.atom a :: ·) := by
    cases a with
    | literal c =>
      rw [Atom.spell, toList_escape_singleton]
      exact tokens?_escapeChar c rest
    | dot => rfl
  cases term with
  | one a => exact hatom a rest
  | star a =>
    rw [Term.spell, List.append_assoc, hatom, List.singleton_append, tokens?, Option.map_map]
    rfl
  | start | stop => rfl

theorem tokens?_flatMap_spell (terms : List Term) :
    tokens? (terms.flatMap (Term.spell escape)) =
      some (terms.flatMap Term.tokens) := by
  induction terms with
  | nil => rfl
  | cons term terms ih => rw [List.flatMap_cons, tokens?_spell, ih, List.flatMap_cons]; rfl

/-- Terms are put together from tokens as they were taken apart. -/
theorem terms?_flatMap_tokens (terms : List Term) :
    terms? (terms.flatMap Term.tokens) = some terms := by
  induction terms with
  | nil => rfl
  | cons term terms ih =>
    cases term with
    | one a =>
      have hnext : ∀ rest, terms.flatMap Term.tokens ≠ .repeated :: rest := by
        intro rest
        cases terms with
        | nil => simp
        | cons next => cases next <;> simp [Term.tokens]
      rw [List.flatMap_cons, Term.tokens, List.singleton_append, terms?, ih]
      · rfl
      · exact hnext
    | star a => simp [Term.tokens, terms?, ih]
    | start | stop => simp [Term.tokens, terms?, ih]

/-- No text that the reader takes apart begins as the flag does. -/
theorem readFlag_of_tokens? {text : List Char} {tokens : List Token}
    (h : tokens? text = some tokens) : readFlag text = (false, text) := by
  fun_cases readFlag text with
  | case1 rest => cases h
  | case2 => rfl

/-- Spelling terms and reading them gives them back, whatever characters they stand for. -/
theorem read?_spell (dotAll : Bool) (terms : List Term) :
    read? (spell escape dotAll terms).toList = some (dotAll, terms) := by
  have htokens := tokens?_flatMap_spell terms
  have hflag : readFlag (spell escape dotAll terms).toList =
      (dotAll, terms.flatMap (Term.spell escape)) := by
    rw [spell, String.toList_ofList]
    cases dotAll with
    | true => rfl
    | false => exact readFlag_of_tokens? htokens
  unfold read?
  rw [hflag]
  dsimp only
  rw [htokens, Option.bind_some, terms?_flatMap_tokens, Option.map_some]

/-- What was spelled from terms is compiled to these terms, unless they take too much. -/
theorem compile_spell {dotAll ignoreCase : Bool} {terms : List Term} {regex : Regex} :
    Engine.plain.compile (spell Engine.plain.escape dotAll terms) ignoreCase = .ok regex ↔
      tooLarge ⟨dotAll, ignoreCase⟩ terms = false ∧
        regex = ofTerms ⟨dotAll, ignoreCase⟩ terms := by
  change compile (spell escape dotAll terms) ignoreCase = .ok regex ↔ _
  unfold compile
  rw [read?_spell]
  cases hsize : tooLarge ⟨dotAll, ignoreCase⟩ terms with
  | true => simp [hsize]
  | false => simp [hsize, eq_comm]

/-- What is asked of an engine can be met. -/
theorem documented_plain : Engine.plain.Documented := by
  intro dotAll ignoreCase terms regex h text
  obtain ⟨-, rfl⟩ := compile_spell.mp h
  exact isMatch_ofTerms

end RowEngine.Regex
