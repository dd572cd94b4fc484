import RowEngine.Proofs.Outcome
import RowEngine.Proofs.Session

/-!
# Operators as streams

What an operator hands out is described by a relation between its states and the rows still to come.
A relation that every request respects is all that the operators above need to know of their input,
so the relations are found one kind of operator at a time. `Replays` adds starting over, and
`Retries` is what is left of it where requests may fail; from them follows what a consumer receives
in any sequence of requests.
-/

namespace RowEngine

theorem Traced.outcome_eq_ok {α : Type} {x : Evaluation α} {a : α} :
    x.outcome = .ok a ↔ x.result = .ok a := by
  unfold outcome
  cases x.result with
  | error e => exact ⟨fun h => (by cases h), fun h => (by cases h)⟩
  | ok b =>
    constructor
    · intro h
      exact congrArg Except.ok (Except.ok.inj h)
    · intro h
      exact congrArg Except.ok (Except.ok.inj h)

/-- A cursor past the end may move on: nothing is left behind it. -/
theorem drop_succ_of_end {rows : List Row} {cursor : Nat} (h : rows[cursor]? = none) :
    rows.drop (cursor + 1) = rows.drop cursor := by
  have hle : rows.length ≤ cursor := List.getElem?_eq_none_iff.mp h
  rw [List.drop_eq_nil_of_le hle, List.drop_eq_nil_of_le (by omega)]

namespace Operator

variable {β : Type} {op : Operator} {stopped : Bool} {s : op.State} {row : Row}

theorem fold_error (f : β → Row → Except Failure β) (acc : β) {e : Failure}
    (h : (op.next stopped s).outcome = .error e) :
    op.fold stopped f acc s =
      ⟨.error e, (op.next stopped s).state, (op.next stopped s).events⟩ := by
  rw [fold]
  split <;> simp_all

theorem fold_end (f : β → Row → Except Failure β) (acc : β)
    (h : (op.next stopped s).outcome = .ok none) :
    op.fold stopped f acc s = ⟨.ok acc, (op.next stopped s).state, (op.next stopped s).events⟩ := by
  rw [fold]
  split <;> simp_all

theorem fold_row {f : β → Row → Except Failure β} {acc acc' : β}
    (h : (op.next stopped s).outcome = .ok (some row)) (hf : f acc row = .ok acc') :
    op.fold stopped f acc s =
      (op.fold stopped f acc' (op.next stopped s).state).after (op.next stopped s).events := by
  rw [fold]
  split
  · simp_all
  · simp_all
  · rename_i row' h'
    obtain rfl : row = row' := by simpa [h] using h'
    rw [hf]

theorem fold_refused {f : β → Row → Except Failure β} {acc : β} {e : Failure}
    (h : (op.next stopped s).outcome = .ok (some row)) (hf : f acc row = .error e) :
    op.fold stopped f acc s =
      ⟨.error e, (op.next stopped s).state, (op.next stopped s).events⟩ := by
  rw [fold]
  split <;> simp_all

/-- Puts a row in front of those taken so far. -/
def push (rows : List Row) (row : Row) : Except Failure (List Row) := .ok (row :: rows)

theorem collect_eq_fold (op : Operator) (stopped : Bool) (s : op.State) :
    op.collect stopped s = ⟨(op.fold stopped push [] s).outcome.map List.reverse,
      (op.fold stopped push [] s).state, (op.fold stopped push [] s).events⟩ := rfl

/-- Rows taken before the others stay behind them. -/
theorem fold_push_append (op : Operator) (stopped : Bool) (taken before : List Row) (s : op.State) :
    (op.fold stopped push (taken ++ before) s).outcome =
      (op.fold stopped push taken s).outcome.map (· ++ before) := by
  fun_induction fold op stopped push taken s with
  | case1 taken s step e h => simp [fold_error push _ h, Except.map]
  | case2 taken s step h => simp [fold_end push _ h, Except.map]
  | case3 taken s step row h e hf => simp [push] at hf
  | case4 taken s step row h taken' hf ih =>
    obtain rfl := Except.ok.inj hf
    rw [fold_row h (show push (taken ++ before) row = .ok (row :: taken ++ before) from rfl)]
    simpa using ih

theorem collect_row (h : (op.next stopped s).outcome = .ok (some row)) :
    (op.collect stopped s).outcome =
      (op.collect stopped (op.next stopped s).state).outcome.map (row :: ·) := by
  have hpush := fold_push_append op stopped [] [row] (op.next stopped s).state
  rw [List.nil_append] at hpush
  simp only [collect_eq_fold, fold_row h (show push [] row = .ok [row] from rfl),
    Step.outcome_after, hpush]
  cases (op.fold stopped push [] (op.next stopped s).state).outcome <;> simp [Except.map]

theorem collect_end (h : (op.next stopped s).outcome = .ok none) :
    (op.collect stopped s).outcome = .ok [] := by
  simp [collect_eq_fold, fold_end push [] h, Except.map]

theorem collect_error {e : Failure} (h : (op.next stopped s).outcome = .error e) :
    (op.collect stopped s).outcome = .error e := by
  simp [collect_eq_fold, fold_error push [] h, Except.map]

/-- Two states that give the same first answer and go on from the same state are drained alike. -/
theorem collect_congr (op : Operator) {s t : op.State}
    (h : (op.next stopped s).outcome = (op.next stopped t).outcome)
    (hstate : (op.next stopped s).state = (op.next stopped t).state) :
    (op.collect stopped s).outcome = (op.collect stopped t).outcome := by
  match hnext : (op.next stopped t).outcome with
  | .error e => rw [collect_error hnext, collect_error (h.trans hnext)]
  | .ok none => rw [collect_end hnext, collect_end (h.trans hnext)]
  | .ok (some row) => rw [collect_row hnext, collect_row (h.trans hnext), hstate]

/-- What every request for a row keeps is kept by feeding the rows to a function. -/
theorem fold_keeps {P : op.State → Prop} (hnext : ∀ s, P s → P (op.next stopped s).state)
    (f : β → Row → Except Failure β) (acc : β) (hs : P s) :
    P (op.fold stopped f acc s).state := by
  fun_induction fold op stopped f acc s with
  | case1 _ s | case2 _ s | case3 _ s => exact hnext s hs
  | case4 _ s _ _ _ _ _ ih => exact ih (hnext s hs)

/-- Feeding the rows to a function succeeds just if they can all be drained and the function accepts
them one after the other. -/
theorem fold_eq_ok {f : β → Row → Except Failure β} {acc result : β} :
    (op.fold stopped f acc s).outcome = .ok result ↔
      ∃ rows, (op.collect stopped s).outcome = .ok rows ∧ rows.foldlM f acc = .ok result := by
  fun_induction fold op stopped f acc s with
  | case1 acc s step e h => simp [collect_error h]
  | case2 acc s step h => simp [collect_end h, pure, Except.pure]
  | case3 acc s step row h e hf =>
    simp only [collect_row h, map_eq_ok, reduceCtorEq, false_iff]
    rintro ⟨_, ⟨rest, -, rfl⟩, hrows⟩
    simp [List.foldlM_cons, hf, bind, Except.bind] at hrows
  | case4 acc s step row h acc' hf ih =>
    simp only [Step.outcome_after, ih, collect_row h, map_eq_ok]
    constructor
    · rintro ⟨rest, hrest, hresult⟩
      exact ⟨_, ⟨rest, hrest, rfl⟩, bind_eq_ok.mpr ⟨acc', hf, hresult⟩⟩
    · rintro ⟨_, ⟨rest, hrest, rfl⟩, hresult⟩
      rw [List.foldlM_cons, bind_eq_ok] at hresult
      obtain ⟨next, hnext, hresult⟩ := hresult
      obtain rfl := Except.ok.inj (hf.symm.trans hnext)
      exact ⟨rest, hrest, hresult⟩

/-- `At s rest` says that the rows still to come from the state `s` are `rest`, `Ended s` that the
end has been answered. -/
structure Streams (op : Operator) (At : op.State → List Row → Prop) (Ended : op.State → Prop) :
    Prop where
  row : ∀ s row rest, At s (row :: rest) →
    (op.next false s).outcome = .ok (some row) ∧ At (op.next false s).state rest
  done : ∀ s, At s [] → (op.next false s).outcome = .ok none ∧ Ended (op.next false s).state

/-- The rows that draining hands out are a stream, whatever the operator does after its end. -/
theorem streams_collect (op : Operator) :
    op.Streams (fun s rows => (op.collect false s).outcome = .ok rows) (fun _ => True) := by
  constructor
  · intro s row rest h
    match hnext : (op.next false s).outcome with
    | .error e => simp [collect_error hnext] at h
    | .ok none => simp [collect_end hnext] at h
    | .ok (some row') =>
      rw [collect_row hnext, map_eq_ok] at h
      obtain ⟨rest', hrest, he⟩ := h
      obtain ⟨rfl, rfl⟩ := List.cons.inj he
      exact ⟨rfl, hrest⟩
  · intro s h
    match hnext : (op.next false s).outcome with
    | .error e => simp [collect_error hnext] at h
    | .ok none => exact ⟨rfl, trivial⟩
    | .ok (some row) => simp [collect_row hnext, map_eq_ok] at h

variable {At : op.State → List Row → Prop} {Ended : op.State → Prop}

/-- An operator that stays at its end, described by the first row and the other rows at once. -/
theorem streams_of_next (h : ∀ s rows, At s rows →
    (op.next false s).outcome = .ok rows.head? ∧ At (op.next false s).state rows.tail) :
    op.Streams At (At · []) :=
  ⟨fun s row rest hs => h s (row :: rest) hs, fun s hs => h s [] hs⟩

/-- A request is answered with the first of the rows still to come, if there is one. -/
theorem Streams.next (h : op.Streams At (At · [])) {rows : List Row} (hs : At s rows) :
    (op.next false s).outcome = .ok rows.head? ∧ At (op.next false s).state rows.tail := by
  cases rows with
  | nil => exact h.done s hs
  | cons row rest => exact h.row s row rest hs

/-- Feeding a stream to a function that accepts all of its rows. -/
theorem Streams.fold (h : op.Streams At Ended) {f : β → Row → Except Failure β} {rows : List Row}
    {acc result : β} (hs : At s rows) (hf : rows.foldlM f acc = .ok result) :
    (op.fold false f acc s).outcome = .ok result ∧ Ended (op.fold false f acc s).state := by
  induction rows generalizing acc s with
  | nil =>
    obtain rfl : acc = result := by simpa [pure, Except.pure] using hf
    obtain ⟨hnext, hended⟩ := h.done s hs
    rw [fold_end f acc hnext]
    exact ⟨rfl, hended⟩
  | cons row rest ih =>
    obtain ⟨hnext, hrest⟩ := h.row s row rest hs
    rw [List.foldlM_cons, bind_eq_ok] at hf
    obtain ⟨acc', hacc, hf⟩ := hf
    rw [fold_row hnext hacc]
    exact ih hrest hf

/-- Rows are collected last first. -/
theorem foldlM_push (rows taken : List Row) :
    rows.foldlM push taken = .ok (rows.reverse ++ taken) := by
  induction rows generalizing taken with
  | nil => rfl
  | cons row rest ih =>
    rw [List.foldlM_cons, bind_eq_ok]
    exact ⟨row :: taken, rfl, by simp [ih]⟩

/-- Draining a stream gives its rows. -/
theorem Streams.collect (h : op.Streams At Ended) {rows : List Row} (hs : At s rows) :
    (op.collect false s).outcome = .ok rows ∧ Ended (op.collect false s).state := by
  obtain ⟨hrows, hended⟩ := h.fold hs (foldlM_push rows [])
  rw [collect_eq_fold]
  exact ⟨by simp [hrows, Except.map], hended⟩

/-- A stream is received by asking for as many rows as it has. -/
theorem Streams.run_next (h : op.Streams At Ended) (session : Session op) {rest : List Row}
    (hs : At session.state rest) :
    (session.run (List.replicate rest.length .next)).seen = session.seen ++ rest := by
  induction rest generalizing session with
  | nil => simp [Session.run]
  | cons row rest ih =>
    obtain ⟨hnext, hrest⟩ := h.row session.state row rest hs
    have hafter := Session.after_next_row hnext
    have hrun := ih (session.after .next) (by rwa [hafter])
    rw [hafter, List.append_assoc] at hrun
    rw [List.length_cons, List.replicate_succ, Session.run, List.foldl_cons, hafter]
    exact hrun

/-- A stream of `rows` that can be started over at any time; a request may fail, and the rows still
to come stay the same. -/
structure Retries (op : Operator) (rows : List Row) (At : op.State → List Row → Prop) : Prop where
  next : ∀ s rest, At s rest →
    ((op.next false s).outcome = .ok rest.head? ∧ At (op.next false s).state rest.tail) ∨
      ∃ e, (op.next false s).outcome = .error e ∧ At (op.next false s).state rest
  start : At op.start rows
  again : ∀ s rest, At s rest → At (op.rescan s).state rows

namespace Retries

variable {rows : List Row}

/-- One request: what has been received and what is still to come make up all rows. -/
theorem after (h : op.Retries rows At) {session : Session op} {rest : List Row}
    (hseen : session.seen ++ rest = rows) (hs : At session.state rest) (request : Request) :
    ∃ rest', (session.after request).seen ++ rest' = rows ∧
      At (session.after request).state rest' := by
  cases request with
  | next =>
    rcases h.next session.state rest hs with ⟨hnext, hstate⟩ | ⟨e, hnext, hstate⟩
    · refine ⟨rest.tail, ?_, by rwa [Session.state_after_next]⟩
      cases rest <;> simpa [Session.after, Session.received, hnext] using hseen
    · rw [Session.after_next_error hnext]
      exact ⟨rest, hseen, hstate⟩
  | rescan => exact ⟨rows, rfl, h.again _ rest hs⟩

/-- Any requests: what has been received since the last start and what is still to come make up all
rows. -/
theorem run (h : op.Retries rows At) (requests : List Request) {session : Session op}
    {rest : List Row} (hseen : session.seen ++ rest = rows) (hs : At session.state rest) :
    ∃ rest', (session.run requests).seen ++ rest' = rows ∧
      At (session.run requests).state rest' := by
  induction requests generalizing session rest with
  | nil => exact ⟨rest, hseen, hs⟩
  | cons request requests ih =>
    obtain ⟨rest', hseen', hs'⟩ := h.after hseen hs request
    exact ih hseen' hs'

theorem run_start (h : op.Retries rows At) (requests : List Request) :
    ∃ rest, ((Session.start op).run requests).seen ++ rest = rows ∧
      At ((Session.start op).run requests).state rest := by
  have hstart : (Session.start op).seen ++ rows = rows := List.nil_append rows
  exact h.run requests hstart h.start

/-- The rows received since the last start are the first rows. -/
theorem seen (h : op.Retries rows At) (requests : List Request) :
    ((Session.start op).run requests).seen <+: rows := by
  obtain ⟨rest, hseen, -⟩ := h.run_start requests
  exact ⟨rest, hseen⟩

end Retries

/-- A stream of `rows` that can be started over at any time and stays at its end. -/
structure Replays (op : Operator) (rows : List Row) (At : op.State → List Row → Prop) : Prop where
  streams : op.Streams At (At · [])
  start : At op.start rows
  again : ∀ s rest, At s rest → (op.rescan s).outcome = .ok () ∧ At (op.rescan s).state rows

namespace Replays

variable {rows : List Row}

theorem retries (h : op.Replays rows At) : op.Retries rows At :=
  ⟨fun _ _ hs => .inl (h.streams.next hs), h.start, fun s rest hs => (h.again s rest hs).2⟩

/-- What a consumer sees at any time: the rows received since the last start are the first rows, the
next one comes right after them, and the end comes just after all of them. -/
theorem consumer (h : op.Replays rows At) (requests : List Request) :
    let session := (Session.start op).run requests
    session.seen <+: rows ∧
      (op.next false session.state).outcome = .ok rows[session.seen.length]? ∧
      (op.rescan session.state).outcome = .ok () := by
  intro session
  obtain ⟨rest, hseen, hs⟩ := h.retries.run_start requests
  refine ⟨⟨rest, hseen⟩, ?_, (h.again _ rest hs).1⟩
  have hget : (session.seen ++ rest)[session.seen.length]? = rest.head? := by
    rw [List.getElem?_append_right (Nat.le_refl _), Nat.sub_self, List.head?_eq_getElem?]
  rw [(h.streams.next hs).1, ← hget]
  exact congrArg (fun all : List Row => Except.ok all[session.seen.length]?) hseen

end Replays

end Operator

end RowEngine
