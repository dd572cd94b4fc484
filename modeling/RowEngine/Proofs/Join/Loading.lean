import RowEngine.Proofs.Join.Partition
import RowEngine.Proofs.Value.Conforming

/-!
# Loading again and again

A build side may be loaded from any inputs and let go in any order, whatever fails on the way. Only
a load that reads its input to the end, and finds the key columns in all of its rows, makes a
difference: the table is always that of the last such load, unless it was let go since.
-/

namespace RowEngine.BuildSide

/-- What is done with a build side: an input is drained from one of its states, or the table is let
go. -/
inductive Action where
  | load (input : Operator) (stopped : Bool) (s : input.State)
  | release

inductive Reply where
  | loaded (outcome : Except Failure Unit)
  | released (outcome : Except Failure Bool)

def Reply.isLoaded : Reply → Bool
  | loaded (.ok _) => true
  | _ => false

def Reply.isReleased : Reply → Bool
  | released (.ok found) => found
  | _ => false

def after (l : BuildSide) : Action → BuildSide
  | .load input stopped s => (l.load input stopped s).state.1
  | .release => l.release.state

def reply (l : BuildSide) : Action → Reply
  | .load input stopped s => .loaded (l.load input stopped s).outcome
  | .release => .released l.release.outcome

def run (l : BuildSide) (actions : List Action) : BuildSide := actions.foldl after l

/-- The answers of actions taken one after the other, whatever comes of them. -/
def replies : BuildSide → List Action → List Reply
  | _, [] => []
  | l, action :: actions => l.reply action :: (l.after action).replies actions

theorem run_concat (l : BuildSide) (actions : List Action) (action : Action) :
    l.run (actions ++ [action]) = (l.run actions).after action := List.foldl_concat _ _ _ _

theorem replies_concat (l : BuildSide) (actions : List Action) (action : Action) :
    l.replies (actions ++ [action]) = l.replies actions ++ [(l.run actions).reply action] := by
  induction actions generalizing l with
  | nil => rfl
  | cons first actions ih => exact congrArg (l.reply first :: ·) (ih (l.after first))

namespace Action

/-- The action is a load that reads some rows, which all have the key columns. -/
def Delivers (ids : List Nat) (action : Action) (rows : List Row) : Prop :=
  match action with
  | load input stopped s => input.Delivers stopped s ids rows
  | release => False

/-- The action is a load that cannot be completed. -/
def Breaks (ids : List Nat) (action : Action) : Prop :=
  match action with
  | load input stopped s => ¬ ∃ rows, input.Delivers stopped s ids rows
  | release => False

variable {ids : List Nat} {action : Action} {actions : List Action} {rows rows' : List Row}

theorem Delivers.eq (h : action.Delivers ids rows) (h' : action.Delivers ids rows') :
    rows = rows' := by
  cases action with
  | load input stopped s => exact Except.ok.inj (h.drained.symm.trans h'.drained)
  | release => exact h.elim

theorem Delivers.covers (h : action.Delivers ids rows) : ∀ row ∈ rows, row.Covers ids := by
  cases action with
  | load input stopped s => exact Operator.Delivers.covers h
  | release => exact h.elim

/-- A load cannot be both completed and broken off. -/
theorem Breaks.not_delivers (h : action.Breaks ids) (rows : List Row) :
    ¬ action.Delivers ids rows := by
  cases action with
  | load input stopped s => exact fun hrows => h ⟨rows, hrows⟩
  | release => exact h.elim

/-- Some rows are those of the last load that was completed, and the table was not let go since. -/
def Last (ids : List Nat) (actions : List Action) (rows : List Row) : Prop :=
  ∃ before action broken, actions = before ++ action :: broken ∧ action.Delivers ids rows ∧
    ∀ other ∈ broken, other.Breaks ids

theorem not_last_nil : ¬ Last ids [] rows := by
  rintro ⟨before, action, broken, he, -⟩
  simp at he

theorem Last.covers (h : Last ids actions rows) : ∀ row ∈ rows, row.Covers ids := by
  obtain ⟨before, action, broken, -, hrows, -⟩ := h
  exact Delivers.covers hrows

/-- The newest action is the last completed load, or it broke off and the last one came before it.
-/
theorem last_concat : Last ids (actions ++ [action]) rows ↔
    action.Delivers ids rows ∨ action.Breaks ids ∧ Last ids actions rows := by
  constructor
  · rintro ⟨before, load, broken, he, hload, hbroken⟩
    rcases List.eq_nil_or_concat broken with rfl | ⟨broken, last, rfl⟩
    · obtain ⟨-, hsame⟩ := List.append_inj' he rfl
      exact .inl (List.singleton_inj.mp hsame ▸ hload)
    · have hsplit : actions ++ [action] = (before ++ load :: broken) ++ [last] := by simpa using he
      obtain ⟨rfl, hsame⟩ := List.append_inj' hsplit rfl
      obtain rfl := List.singleton_inj.mp hsame
      refine .inr ⟨hbroken _ (by simp), before, load, broken, rfl, hload, fun other hother => ?_⟩
      exact hbroken other (by simp [hother])
  · rintro (hrows | ⟨hbreaks, before, load, broken, rfl, hload, hbroken⟩)
    · exact ⟨actions, action, [], rfl, hrows, by simp⟩
    · refine ⟨before, load, broken ++ [action], by simp, hload, ?_⟩
      intro other hother
      rcases List.mem_append.mp hother with hother | hother
      · exact hbroken other hother
      · exact List.mem_singleton.mp hother ▸ hbreaks

end Action

theorem breaks_of_error {l : BuildSide} {input : Operator} {stopped : Bool} {s : input.State}
    {e : Failure} (h : (l.load input stopped s).outcome = .error e) :
    (Action.load input stopped s).Breaks l.keyColumns := by
  intro hrows
  rw [load_eq_ok.mpr hrows] at h
  cases h

/-- An action completes a load, fails to and changes nothing, or lets the table go. -/
theorem after_cases (l : BuildSide) (action : Action) :
    (∃ rows, action.Delivers l.keyColumns rows ∧
      l.after action = ⟨l.keyColumns, some (Buildup.ofRows l.keyColumns rows).table, l.loads + 1,
        l.releases⟩ ∧ l.reply action = .loaded (.ok ())) ∨
    (action.Breaks l.keyColumns ∧ l.after action = l ∧
      ∃ e, l.reply action = .loaded (.error e)) ∨
    (action = .release ∧
      l.after action = ⟨l.keyColumns, none, l.loads, l.releases + l.table.isSome.toNat⟩ ∧
      l.reply action = .released (.ok l.table.isSome)) := by
  cases action with
  | load input stopped s =>
    cases hout : (l.load input stopped s).outcome with
    | ok u =>
      obtain ⟨rows, hrows⟩ := load_eq_ok.mp hout
      exact .inl ⟨rows, hrows, state_load hrows, congrArg Reply.loaded hout⟩
    | error e =>
      exact .inr (.inl ⟨breaks_of_error hout, load_error hout, e, congrArg Reply.loaded hout⟩)
  | release =>
    refine .inr (.inr ⟨rfl, ?_⟩)
    rcases l with ⟨ids, _ | table, loads, releases⟩
    · exact ⟨rfl, rfl⟩
    · exact ⟨rfl, rfl⟩

theorem keyColumns_run (ids : List Nat) (actions : List Action) :
    ((ofKeys ids).run actions).keyColumns = ids := by
  induction actions using List.reverseRecOn with
  | nil => rfl
  | append_singleton actions action ih =>
    rw [run_concat]
    rcases after_cases ((ofKeys ids).run actions) action with
      ⟨rows, -, hafter, -⟩ | ⟨-, hafter, -⟩ | ⟨-, hafter, -⟩ <;> rw [hafter] <;> exact ih

/-- The loads that succeeded and the releases that found a table are counted. -/
theorem counts_run (ids : List Nat) (actions : List Action) :
    ((ofKeys ids).run actions).loads = ((ofKeys ids).replies actions).countP Reply.isLoaded ∧
      ((ofKeys ids).run actions).releases =
        ((ofKeys ids).replies actions).countP Reply.isReleased := by
  induction actions using List.reverseRecOn with
  | nil => exact ⟨rfl, rfl⟩
  | append_singleton actions action ih =>
    obtain ⟨hloads, hreleases⟩ := ih
    rw [run_concat, replies_concat, List.countP_append, List.countP_append, ← hloads, ← hreleases]
    rcases after_cases ((ofKeys ids).run actions) action with
      ⟨rows, -, hafter, hreply⟩ | ⟨-, hafter, e, hreply⟩ | ⟨-, hafter, hreply⟩
    · rw [hafter, hreply]
      exact ⟨rfl, rfl⟩
    · rw [hafter, hreply]
      exact ⟨rfl, rfl⟩
    · rw [hafter, hreply]
      refine ⟨rfl, ?_⟩
      cases ((ofKeys ids).run actions).table.isSome <;> rfl

/-- The table is that of the last load that was completed. -/
theorem table_run (ids : List Nat) (actions : List Action) (table : JoinTable) :
    ((ofKeys ids).run actions).table = some table ↔
      ∃ rows, Action.Last ids actions rows ∧ table = (Buildup.ofRows ids rows).table := by
  induction actions using List.reverseRecOn with
  | nil => exact ⟨nofun, fun ⟨rows, hlast, _⟩ => (Action.not_last_nil hlast).elim⟩
  | append_singleton actions action ih =>
    simp only [run_concat, Action.last_concat]
    have hkeys := keyColumns_run ids actions
    rcases after_cases ((ofKeys ids).run actions) action with
      ⟨rows, hrows, hafter, -⟩ | ⟨hbreaks, hafter, -⟩ | ⟨rfl, hafter, -⟩
    · -- the table of a load that was completed does not depend on what was there before
      rw [hkeys] at hrows hafter
      rw [hafter]
      constructor
      · intro htable
        exact ⟨rows, .inl hrows, (Option.some.inj htable).symm⟩
      · rintro ⟨rows', hrows' | ⟨hbreaks, -⟩, rfl⟩
        · rw [hrows.eq hrows']
        · exact (hbreaks.not_delivers rows hrows).elim
    · rw [hkeys] at hbreaks
      rw [hafter, ih]
      constructor
      · rintro ⟨rows, hlast, htable⟩
        exact ⟨rows, .inr ⟨hbreaks, hlast⟩, htable⟩
      · rintro ⟨rows, hrows | ⟨-, hlast⟩, htable⟩
        · exact (hbreaks.not_delivers rows hrows).elim
        · exact ⟨rows, hlast, htable⟩
    · rw [hafter]
      exact ⟨nofun, fun ⟨rows, hlast, _⟩ => (hlast.elim id fun h => h.1).elim⟩

/-- Whatever was loaded and let go before, the table is that of the rows of the last load that was
completed, if there was one since the last release; a load that fails changes nothing, and so does a
release that finds no table. -/
theorem run_atomic (ids : List Nat) (actions : List Action) :
    let l := (ofKeys ids).run actions
    let replies := (ofKeys ids).replies actions
    l.keyColumns = ids ∧ l.loads = replies.countP Reply.isLoaded ∧
    l.releases = replies.countP Reply.isReleased ∧
    (∀ table, l.table = some table ↔
      ∃ rows, Action.Last ids actions rows ∧ table = (Buildup.ofRows ids rows).table) ∧
    (∀ rows, Action.Last ids actions rows → (Buildup.ofRows ids rows).table.Partitions ids rows) ∧
    (∀ input stopped s,
      ((l.load input stopped s).outcome = .ok () ↔ ∃ rows, input.Delivers stopped s ids rows) ∧
      (∀ rows, input.Delivers stopped s ids rows → (l.load input stopped s).state.1 =
        ⟨ids, some (Buildup.ofRows ids rows).table, l.loads + 1, l.releases⟩) ∧
      ∀ e, (l.load input stopped s).outcome = .error e → (l.load input stopped s).state.1 = l) ∧
    l.release.outcome = .ok l.table.isSome ∧
    l.release.state = ⟨ids, none, l.loads, l.releases + l.table.isSome.toNat⟩ := by
  intro l replies
  have hkeys : l.keyColumns = ids := keyColumns_run ids actions
  obtain ⟨hloads, hreleases⟩ := counts_run ids actions
  refine ⟨hkeys, hloads, hreleases, table_run ids actions, ?_, ?_, ?_⟩
  · intro rows hlast
    exact JoinTable.partitions_ofRows hlast.covers
  · intro input stopped s
    rw [← hkeys]
    exact ⟨load_eq_ok, fun rows hrows => state_load hrows, fun e he => load_error he⟩
  · rcases l.after_cases .release with ⟨rows, hrows, -⟩ | ⟨hbreaks, -⟩ | ⟨-, hafter, hreply⟩
    · exact hrows.elim
    · exact hbreaks.elim
    · rw [hkeys] at hafter
      exact ⟨Reply.released.inj hreply, hafter⟩

/-- A table is built, let go, and built anew; then an input fails behind its first row, and the rows
of another one are too short. -/
theorem run_atomic_integers :
    let input := Operator.scan (.ofIntegers "a" [1, 2, 1])
    let failing := Operator.scripted ⟨input.schema, [[.integer 3], [.integer 4]],
      fun n => if n = 1 then some (.internal "read failed") else none, none, none, .zero⟩
    let short := Operator.scan ⟨⟨[]⟩, [[]], by simp [Schema.size]⟩
    let broken : List Action := [.load failing false failing.start, .load short false short.start]
    let load := Action.load input false input.start
    let actions := [load, .release] ++ load :: broken
    let l := (ofKeys [0]).run actions
    let rows : List Row := [[.integer 1], [.integer 2], [.integer 1]]
    Action.Last [0] actions rows ∧ l.table = some (Buildup.ofRows [0] rows).table ∧
      l.loads = 2 ∧ l.releases = 1 ∧
      (l.load failing false failing.start).outcome = .error (.internal "read failed") ∧
      (l.load failing false failing.start).state.1 = l ∧ l.release.outcome = .ok true := by
  intro input failing short broken load actions l rows
  obtain ⟨-, hloads, hreleases, htable, -, hload, hrelease, -⟩ := run_atomic [0] actions
  have hlast : Action.Last [0] actions rows := by
    have hbroken (input : Operator) {e : Failure}
        (he : ((ofKeys [0]).load input false input.start).outcome = .error e) :
        (Action.load input false input.start).Breaks [0] := breaks_of_error he
    refine ⟨[load, .release], load, broken, rfl, ⟨Operator.collect_scan _, by decide⟩, ?_⟩
    refine List.forall_mem_cons.mpr ⟨?_, List.forall_mem_singleton.mpr ?_⟩
    · exact hbroken failing (e := .internal "read failed") (by decide +kernel)
    · exact hbroken short (e := .evaluation (.columnOutOfBounds 0 0)) (by decide +kernel)
  have hsome := (htable _).mpr ⟨rows, hlast, rfl⟩
  have hfails : (l.load failing false failing.start).outcome =
      .error (.internal "read failed") := by
    decide +kernel
  refine ⟨hlast, hsome, hloads.trans (by decide +kernel), hreleases.trans (by decide +kernel),
    hfails, (hload failing false failing.start).2.2 _ hfails, ?_⟩
  rw [hrelease]
  exact congrArg (Except.ok ·.isSome) hsome

end RowEngine.BuildSide
