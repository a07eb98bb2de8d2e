import Mathlib.Data.List.Chain
import SqlTriggers.Migration.Json
import SqlTriggers.Proofs.Migration.Replay

/-! Any sequence of calls on a history, with executors that may refuse any statement. The versions
stay in order. What is sent is known up to the statement that was refused, and what is refused is
not taken up. -/

namespace SqlTriggers

namespace Executor

variable {σ : Type} {x : Executor σ} {s mid s' : σ} {stmt : String} {stmts front : List String}
  {e : Error}

def Takes (x : Executor σ) (s : σ) (stmts : List String) (s' : σ) : Prop :=
  x.runAll s stmts = (s', .ok ())

def Refuses (x : Executor σ) (s : σ) (stmts front : List String) (stmt : String) (s' : σ)
    (e : Error) : Prop :=
  ∃ behind mid, stmts = front ++ stmt :: behind ∧ x.Takes s front mid ∧
    x.run mid stmt = (s', .error e)

lemma Takes.cons (hr : x.run s stmt = (mid, .ok ())) (h : x.Takes mid stmts s') :
    x.Takes s (stmt :: stmts) s' := by
  rw [Takes, runAll_cons_ok hr]
  exact h

lemma Refuses.cons {last : String} (hr : x.run s stmt = (mid, .ok ()))
    (h : x.Refuses mid stmts front last s' e) :
    x.Refuses s (stmt :: stmts) (stmt :: front) last s' e := by
  obtain ⟨behind, mid', rfl, htakes, hlast⟩ := h
  exact ⟨behind, mid', rfl, htakes.cons hr, hlast⟩

end Executor

namespace History

def Ordered (h : History) : Prop :=
  h.migrations.Pairwise fun a b => a.version < b.version

variable {h : History} {m : Migration}

lemma ordered_empty : empty.Ordered := List.Pairwise.nil

lemma latest?_push : (h.push m).latest? = some m := by
  simp [latest?, push]

lemma dropLast_push : (⟨(h.push m).migrations.dropLast⟩ : History) = h := by
  simp [push]

lemma Ordered.version_le_last (ho : h.Ordered) (hm : m ∈ h.migrations) :
    ∃ latest, h.lastVersion = some latest ∧ m.version ≤ latest := by
  obtain ⟨ms⟩ := h
  induction ms using List.reverseRecOn with
  | nil => exact absurd hm List.not_mem_nil
  | append_singleton ms last ih =>
    refine ⟨last.version, by simp [lastVersion, latest?], ?_⟩
    rcases List.mem_append.mp hm with hm | hm
    · exact UInt64.le_of_lt ((List.pairwise_append.mp ho).2.2 m hm last List.mem_cons_self)
    · rw [List.mem_singleton.mp hm]
      exact UInt64.le_refl _

lemma Ordered.push (ho : h.Ordered)
    (hv : ∀ latest, h.lastVersion = some latest → latest < m.version) : (h.push m).Ordered := by
  refine List.pairwise_append.mpr ⟨ho, List.pairwise_singleton _ _, fun a ha b hb => ?_⟩
  obtain ⟨latest, hl, hle⟩ := ho.version_le_last ha
  rw [List.mem_singleton.mp hb]
  exact UInt64.lt_of_le_of_lt hle (hv latest hl)

lemma disorder?_eq_none_iff {ms : List Migration} : disorder? ms = none ↔ Ordered ⟨ms⟩ := by
  have htrans : IsTrans Migration fun a b => a.version < b.version :=
    ⟨fun _ _ _ => UInt64.lt_trans⟩
  -- The check compares neighbours only, which is enough because the order is transitive.
  rw [Ordered, ← List.isChain_iff_pairwise]
  fun_induction disorder? ms with
  | case1 a b rest hle => simp [UInt64.not_lt.mpr hle]
  | case2 a b rest hle ih => simp [ih, UInt64.not_le.mp hle]
  | case3 ms hne =>
    match ms with
    | [] => simp
    | [a] => simp
    | a :: b :: rest => exact absurd rfl (hne a b rest)

lemma ofMigrations_eq_ok_iff {ms : List Migration} :
    ofMigrations ms = .ok h ↔ Ordered ⟨ms⟩ ∧ h = ⟨ms⟩ := by
  rw [← disorder?_eq_none_iff, ofMigrations]
  cases disorder? ms <;> simp [eq_comm]

lemma ordered_of_read {text : String} (hr : read text = .ok h) : h.Ordered := by
  rw [read] at hr
  split at hr
  · obtain ⟨ho, rfl⟩ := ofMigrations_eq_ok_iff.mp hr
    exact ho
  · cases hr

lemma requireNewer_eq_error {version latest : UInt64} (hl : h.lastVersion = some latest)
    (hv : version ≤ latest) :
    h.requireNewer version = .error (.outOfOrderMigration version latest) := by
  simp only [requireNewer, hl, hv, if_true]

lemma record_eq_error {e : Error} (hr : h.requireNewer m.version = .error e) :
    h.record m = .error e := by
  rw [record, hr]
  rfl

section Executor

variable {σ : Type} {x : Executor σ} {s s' : σ} {e : Error}

lemma apply_eq_error (hr : h.requireNewer m.version = .error e) :
    h.apply x s m = (s, .error e) := by
  simp only [apply, hr]

lemma apply_refused (hv : ∀ latest, h.lastVersion = some latest → latest < m.version)
    (hx : x.runAll s m.up = (s', .error e)) : h.apply x s m = (s', .error e) := by
  simp only [apply, requireNewer_eq_ok hv, hx]

lemma rollback_refused (hl : h.latest? = some m) (hx : x.runAll s m.down = (s', .error e)) :
    h.rollback x s = (s', .error e) := by
  simp only [rollback, hl, hx]

end Executor

end History

/-- A history that is kept in place, with the world that its statements go to and all that was ever
sent there. -/
structure Ledger (σ : Type) where
  history : History
  world : σ
  sent : List String

inductive Call where
  | record (m : Migration)
  | apply (m : Migration)
  | rollback

namespace Ledger

variable {σ : Type}

def sender (x : Executor σ) : Executor (Ledger σ) where
  run l stmt :=
    let (s, result) := x.run l.world stmt
    ({ l with world := s, sent := l.sent ++ [stmt] }, result)

def call (x : Executor σ) (l : Ledger σ) : Call → Ledger σ × Except Error (Option Migration)
  | .record m =>
    match l.history.record m with
    | .error e => (l, .error e)
    | .ok h => ({ l with history := h }, .ok none)
  | .apply m =>
    match l.history.apply (sender x) l m with
    | (l', .error e) => (l', .error e)
    | (l', .ok h) => ({ l' with history := h }, .ok none)
  | .rollback =>
    match l.history.rollback (sender x) l with
    | (l', .error e) => (l', .error e)
    | (l', .ok (h, m)) => ({ l' with history := h }, .ok m)

/-- Any calls in any order, each with an executor of its own, and none has to succeed. -/
inductive Reached (start : History) : Ledger σ → Prop
  | start (s : σ) : Reached start ⟨start, s, []⟩
  | call {l : Ledger σ} (x : Executor σ) (c : Call) : Reached start l → Reached start (l.call x c).1

section Sending

variable (x : Executor σ) (l : Ledger σ)

def Delivers (stmts : List String) (l' : Ledger σ) : Prop :=
  ∃ s, x.Takes l.world stmts s ∧ l' = { l with world := s, sent := l.sent ++ stmts }

def Stops (stmts : List String) (e : Error) (l' : Ledger σ) : Prop :=
  ∃ front stmt s, x.Refuses l.world stmts front stmt s e ∧
    l' = { l with world := s, sent := l.sent ++ (front ++ [stmt]) }

variable {x l}

lemma sender_run_eq {stmt : String} {s : σ} {result : Except Error Unit}
    (hr : x.run l.world stmt = (s, result)) :
    (sender x).run l stmt = ({ l with world := s, sent := l.sent ++ [stmt] }, result) := by
  simp only [sender, hr]

lemma sender_runAll (x : Executor σ) (l : Ledger σ) (stmts : List String) :
    (∃ l', (sender x).runAll l stmts = (l', .ok ()) ∧ Delivers x l stmts l') ∨
      ∃ l' e, (sender x).runAll l stmts = (l', .error e) ∧ Stops x l stmts e l' := by
  induction stmts generalizing l with
  | nil => exact .inl ⟨l, rfl, l.world, rfl, by simp⟩
  | cons stmt stmts ih =>
    cases hr : x.run l.world stmt with
    | mk mid result =>
      have hsend := sender_run_eq hr
      cases result with
      | error e =>
        have hrefuses : x.Refuses l.world (stmt :: stmts) [] stmt mid e :=
          ⟨stmts, l.world, rfl, rfl, hr⟩
        exact .inr ⟨_, e, Executor.runAll_cons_error hsend stmts, [], stmt, mid, hrefuses, rfl⟩
      | ok u =>
        rw [Executor.runAll_cons_ok hsend]
        rcases ih { l with world := mid, sent := l.sent ++ [stmt] } with
          ⟨l', hrun, s, htakes, rfl⟩ | ⟨l', e, hrun, front, last, s, hrefuses, rfl⟩
        · exact .inl ⟨_, hrun, s, htakes.cons hr, by simp⟩
        · exact .inr ⟨_, e, hrun, stmt :: front, last, s, hrefuses.cons hr, by simp⟩

end Sending

/-- What each call does to a history and what it sends. -/
structure Keeps (x : Executor σ) (l : Ledger σ) : Prop where
  stale : ∀ m latest, l.history.lastVersion = some latest → m.version ≤ latest →
    ∀ c ∈ [Call.record m, Call.apply m],
      l.call x c = (l, .error (.outOfOrderMigration m.version latest))
  record : ∀ m, (∀ latest, l.history.lastVersion = some latest → latest < m.version) →
    l.call x (.record m) = ({ l with history := l.history.push m }, .ok none)
  apply : ∀ m, (∀ latest, l.history.lastVersion = some latest → latest < m.version) →
    (∃ l', Delivers x l m.up l' ∧
      l.call x (.apply m) = ({ l' with history := l.history.push m }, .ok none)) ∨
    ∃ l' e, Stops x l m.up e l' ∧ l.call x (.apply m) = (l', .error e)
  rollback : ∀ h m, l.history = h.push m →
    (∃ l', Delivers x l m.down l' ∧
      l.call x .rollback = ({ l' with history := h }, .ok (some m))) ∨
    ∃ l' e, Stops x l m.down e l' ∧ l.call x .rollback = (l', .error e)
  nothing : l.history = .empty → l.call x .rollback = (l, .ok none)

lemma keeps (x : Executor σ) (l : Ledger σ) : l.Keeps x where
  stale := by
    intro m latest hl hv c hc
    have hold := History.requireNewer_eq_error hl hv
    rcases List.mem_pair.mp hc with rfl | rfl
    · simp only [call, History.record_eq_error hold]
    · simp only [call, History.apply_eq_error hold]
  record := by
    intro m hv
    simp only [call, History.record_eq_ok hv]
  apply := by
    intro m hv
    rcases sender_runAll x l m.up with ⟨l', hrun, hdelivers⟩ | ⟨l', e, hrun, hstops⟩
    · refine .inl ⟨l', hdelivers, ?_⟩
      simp only [call, History.apply_eq_ok hv hrun]
    · refine .inr ⟨l', e, hstops, ?_⟩
      simp only [call, History.apply_refused hv hrun]
  rollback := by
    intro h m hh
    have hlast : l.history.latest? = some m := by rw [hh, History.latest?_push]
    rcases sender_runAll x l m.down with ⟨l', hrun, hdelivers⟩ | ⟨l', e, hrun, hstops⟩
    · refine .inl ⟨l', hdelivers, ?_⟩
      simp only [call, History.rollback_eq_ok hlast hrun]
      rw [hh, History.dropLast_push]
    · refine .inr ⟨l', e, hstops, ?_⟩
      simp only [call, History.rollback_refused hlast hrun]
  nothing := by
    intro hh
    have hnone : l.history.latest? = none := by rw [hh]; rfl
    simp only [call, History.rollback, hnone]

variable {x : Executor σ} {l : Ledger σ} {start : History}

lemma Stops.history_eq {stmts : List String} {e : Error} {l' : Ledger σ}
    (h : Stops x l stmts e l') : l'.history = l.history := by
  obtain ⟨front, stmt, s, -, rfl⟩ := h
  rfl

lemma ordered_call (ho : l.history.Ordered) (c : Call) : (l.call x c).1.history.Ordered := by
  have hk := keeps x l
  -- A migration is either newer than the latest, or turned away with all that it brings.
  have hnewer (m : Migration) :
      (∀ latest, l.history.lastVersion = some latest → latest < m.version) ∨
        ∃ latest, l.history.lastVersion = some latest ∧ m.version ≤ latest := by
    by_cases hs : ∃ latest, l.history.lastVersion = some latest ∧ m.version ≤ latest
    · exact .inr hs
    · exact .inl fun latest hl => UInt64.not_le.mp fun hv => hs ⟨latest, hl, hv⟩
  cases c with
  | record m =>
    rcases hnewer m with hv | ⟨latest, hl, hv⟩
    · rw [hk.record m hv]
      exact ho.push hv
    · rw [hk.stale m latest hl hv _ (by simp)]
      exact ho
  | apply m =>
    rcases hnewer m with hv | ⟨latest, hl, hv⟩
    · rcases hk.apply m hv with ⟨l', -, hcall⟩ | ⟨l', e, hstops, hcall⟩
      · rw [hcall]
        exact ho.push hv
      · rw [hcall, hstops.history_eq]
        exact ho
    · rw [hk.stale m latest hl hv _ (by simp)]
      exact ho
  | rollback =>
    rcases List.eq_nil_or_concat' l.history.migrations with hnil | ⟨ms, m, hms⟩
    · rw [hk.nothing (congrArg History.mk hnil)]
      exact ho
    · have hh : l.history = History.push ⟨ms⟩ m := congrArg History.mk hms
      rcases hk.rollback ⟨ms⟩ m hh with ⟨l', -, hcall⟩ | ⟨l', e, hstops, hcall⟩
      · rw [hcall]
        rw [hh] at ho
        exact (List.pairwise_append.mp ho).1
      · rw [hcall, hstops.history_eq]
        exact ho

lemma Reached.ordered (ho : start.Ordered) (hl : Reached start l) : l.history.Ordered := by
  induction hl with
  | start s => exact ho
  | call x c _ ih => exact ordered_call ih c

theorem Reached.ordered_and_keeps
    (hstart : start = .empty ∨ ∃ text, History.read text = .ok start) (hl : Reached start l) :
    l.history.Ordered ∧ ∀ x, l.Keeps x := by
  have ho : start.Ordered := by
    rcases hstart with rfl | ⟨text, hread⟩
    · exact History.ordered_empty
    · exact History.ordered_of_read hread
  exact ⟨hl.ordered ho, fun x => l.keeps x⟩

section Instance

def opening : Migration :=
  .ofStatements 1 "opening" .lightweight ["CREATE INDEX by_name"]
    ["ANALYZE", "DROP INDEX by_name", "VACUUM"]

def refusesDrop : Executor Unit where
  run s stmt :=
    (s, if stmt = "DROP INDEX by_name" then .error (.execution stmt "in use") else .ok ())

def halfway : Ledger Unit :=
  (call refusesDrop (call refusesDrop ⟨.empty, (), []⟩ (.apply opening)).1 .rollback).1

theorem ordered_and_keeps_halfway :
    (halfway.history.migrations = [opening] ∧
      halfway.sent = ["CREATE INDEX by_name", "ANALYZE", "DROP INDEX by_name"]) ∧
    halfway.history.Ordered ∧ ∀ x, halfway.Keeps x := by
  have hreached : Reached .empty halfway :=
    .call refusesDrop .rollback (.call refusesDrop (.apply opening) (.start ()))
  exact ⟨⟨by rfl, by rfl⟩, Reached.ordered_and_keeps (.inl rfl) hreached⟩

end Instance

end Ledger

end SqlTriggers
