import RecordMapper.Proofs.Store.Depth
import RecordMapper.Proofs.Store.Ledger

/-! # Transactions within transactions

On a connection that marks its contents and takes them back, each block is kept as a whole or leaves
nothing behind. -/

namespace RecordMapper

open Procedure

variable {σ δ ε α : Type}

namespace Sqlite

variable {q : Sqlite σ} {contents : σ → δ} {marks : σ → List (Option String × δ)}

/-- The marks of a state are those of the blocks that are entered. -/
def Marked (marks : σ → List (Option String × δ)) (s : SqliteState σ) : Prop :=
  (marks s.connection).map Prod.fst = markNames s.depth

theorem looksOnly_marks (h : q.connection.Marks contents marks) :
    q.LooksOnly fun s => (contents s.connection, marks s.connection) := fun text htext s =>
  Prod.ext_iff.mpr (h.looks text htext s.connection)

theorem runFrom_control_of_does {text : String} {s : SqliteState σ} {P : σ → Prop}
    (h : q.connection.Does text s.connection P) :
    ∃ t, (q.control text).runFrom s = (.ok (), t) ∧ t.depth = s.depth ∧ P t.connection := by
  obtain ⟨⟨cursor, hok⟩, hP⟩ := h
  refine ⟨{ s with connection := (q.connection.execute text [] s.connection).2 }, ?_, rfl, hP⟩
  rw [control, runFrom_bind, runFrom_attempt, runFrom_command, hok]
  rfl

/-- To enter a block marks the contents. -/
theorem begin_of_marks (h : q.connection.Marks contents marks) {s : SqliteState σ}
    (hs : Marked marks s) :
    ∃ t, q.begin.runFrom s = (.ok (), t) ∧ t.depth = s.depth + 1 ∧
      contents t.connection = contents s.connection ∧
      marks t.connection = (markName s.depth, contents s.connection) :: marks s.connection := by
  have hdoes : q.connection.Does (beginText s.depth) s.connection fun t =>
      contents t = contents s.connection ∧
        marks t = (markName s.depth, contents s.connection) :: marks s.connection := by
    unfold beginText markName
    split
    · rename_i hdepth
      have hnone : marks s.connection = [] := by
        rw [Marked, hdepth, markNames, List.map_eq_nil_iff] at hs
        exact hs
      rw [hnone]
      exact h.begins s.connection hnone
    · rename_i hdepth
      exact h.savepoints s.depth s.connection (ne_nil_of_map_eq_markNames hs hdepth)
  obtain ⟨t, ht, -, hcontents, hmarks⟩ := runFrom_control_of_does hdoes
  exact ⟨{ t with depth := s.depth + 1 }, by rw [runFrom_begin, ht], rfl, hcontents, hmarks⟩

section Leave

variable {s : SqliteState σ} {n : Nat} {saved : δ} {below : List (Option String × δ)}

/-- A failed block is left with the contents that were marked. -/
theorem rollback_of_marks (h : q.connection.Marks contents marks) (hs : s.depth = n + 1)
    (hmarks : marks s.connection = (markName n, saved) :: below)
    (hbelow : below.map Prod.fst = markNames n) :
    ∃ t, q.rollback.runFrom s = (.ok (), t) ∧ contents t.connection = saved ∧
      marks t.connection = below := by
  have hn : s.depth - 1 = n := by omega
  rw [runFrom_rollback, hn]
  split
  · rename_i hzero
    obtain rfl := hzero
    obtain rfl := List.map_eq_nil_iff.mp hbelow
    obtain ⟨t, ht, -, hcontents, hnone⟩ := runFrom_control_of_does
      (s := { s with depth := 0 }) (h.rollsBack s.connection [] saved hmarks)
    exact ⟨t, ht, hcontents, hnone⟩
  · rename_i hpos
    rw [markName, if_neg hpos] at hmarks
    have hsome : below ≠ [] := ne_nil_of_map_eq_markNames hbelow hpos
    obtain ⟨t, ht, -, hcontents, hreturned⟩ := runFrom_control_of_does
      (s := { s with depth := n }) (h.returns n s.connection [] saved below hmarks nofun)
    obtain ⟨u, hu, -, hkept, hreleased⟩ := runFrom_control_of_does
      (s := t) (h.releases n t.connection [] saved below hreturned nofun hsome)
    refine ⟨u, ?_, hkept.trans hcontents, hreleased⟩
    rw [runFrom_bind, ht]
    exact hu

theorem commitOutermost_of_marks (h : q.connection.Marks contents marks)
    (hmarks : marks s.connection = [(none, saved)]) :
    (∃ t, q.commitOutermost.runFrom s = (.ok (), t) ∧
        contents t.connection = contents s.connection ∧ marks t.connection = []) ∨
      ∃ e t, q.commitOutermost.runFrom s = (.error e, t) ∧ contents t.connection = saved ∧
        marks t.connection = [] := by
  have hopen : marks s.connection ≠ [] := by simp [hmarks]
  rw [commitOutermost, runFrom_bind, runFrom_attempt, runFrom_command]
  rcases h.commits s.connection hopen with ⟨⟨cursor, hok⟩, hkept, hnone⟩ | ⟨⟨e, hrefused⟩, -, hsame⟩
  · rw [hok]
    exact .inl ⟨_, rfl, hkept, hnone⟩
  · rw [hrefused]
    generalize (q.connection.execute "COMMIT" [] s.connection).2 = t at hsame ⊢
    have hisOpen : q.connection.inTransaction t = true := by
      rw [h.isOpen, hsame]
      simpa using hopen
    obtain ⟨⟨cursor, hok⟩, hcontents, hnone⟩ := h.rollsBack t [] saved (hsame.trans hmarks)
    simp only [runFrom_bind, runFrom_read, hisOpen, if_true, runFrom_adapt, runFrom_command, hok]
    dsimp only [Except.mapError]
    generalize (q.connection.execute "ROLLBACK" [] t).2 = u at hcontents hnone ⊢
    -- the failure is looked into after the work is taken back, and that changes nothing
    have hlooked := keeps_fail (α := Unit) (looksOnly_marks h) e ⟨u, s.depth⟩
    rcases hfail : (q.fail e : Procedure _ _ Unit).runFrom ⟨u, s.depth⟩ with ⟨f | a, v⟩
    · rw [hfail] at hlooked
      obtain ⟨hkept, hmarked⟩ := Prod.ext_iff.mp hlooked
      exact .inr ⟨f, v, rfl, hkept.trans hcontents, hmarked.trans hnone⟩
    · exact absurd (congrArg Prod.fst hfail) (fail_ne_ok e _ a)

/-- A block that ends is left with its contents, or it fails and is left with those that were
marked. -/
theorem commit_of_marks (h : q.connection.Marks contents marks) (hs : s.depth = n + 1)
    (hmarks : marks s.connection = (markName n, saved) :: below)
    (hbelow : below.map Prod.fst = markNames n) :
    (∃ t, q.commit.runFrom s = (.ok (), t) ∧
        contents t.connection = contents s.connection ∧ marks t.connection = below) ∨
      ∃ e t, q.commit.runFrom s = (.error e, t) ∧ contents t.connection = saved ∧
        marks t.connection = below := by
  have hn : s.depth - 1 = n := by omega
  rw [runFrom_commit, hn]
  split
  · rename_i hzero
    obtain rfl := hzero
    obtain rfl := List.map_eq_nil_iff.mp hbelow
    exact commitOutermost_of_marks h hmarks
  · rename_i hpos
    rw [markName, if_neg hpos] at hmarks
    have hsome : below ≠ [] := ne_nil_of_map_eq_markNames hbelow hpos
    obtain ⟨t, ht, -, hkept, hreleased⟩ := runFrom_control_of_does
      (s := { s with depth := n }) (h.releases n s.connection [] saved below hmarks nofun hsome)
    exact .inl ⟨t, ht, hkept, hreleased⟩

end Leave

/-! ## Blocks -/

/-- What a block does that is entered in a state; its body begins in the state `entered`, with the
contents as they are. When the body fails the block fails with the same error, and a block that
fails leaves the contents as they were. One that ends leaves them as its body does. -/
structure Atomic (q : Sqlite σ) (contents : σ → δ) (fault : StoreFault → ε)
    (body : Procedure (SqliteState σ) ε α) (s entered : SqliteState σ) : Prop where
  entry : q.begin.runFrom s = (.ok (), entered) ∧
    contents entered.connection = contents s.connection
  failed : ∀ e, (body.runFrom entered).1 = .error e →
    ((q.store.transaction fault body).runFrom s).1 = .error e
  undone : ∀ e, ((q.store.transaction fault body).runFrom s).1 = .error e →
    contents ((q.store.transaction fault body).runFrom s).2.connection = contents s.connection
  kept : ∀ a, ((q.store.transaction fault body).runFrom s).1 = .ok a →
    (body.runFrom entered).1 = .ok a ∧
      contents ((q.store.transaction fault body).runFrom s).2.connection =
        contents (body.runFrom entered).2.connection

/-- A block whose body leaves the marks as they are is atomic and leaves them too. -/
theorem atomic_of_marks (h : q.connection.Marks contents marks) (fault : StoreFault → ε)
    {body : Procedure (SqliteState σ) ε α} (hdepth : Keeps SqliteState.depth body)
    (hbody : ∀ s, Marked marks s →
      marks (body.runFrom s).2.connection = marks s.connection)
    {s : SqliteState σ} (hs : Marked marks s) :
    marks ((q.store.transaction fault body).runFrom s).2.connection = marks s.connection ∧
      ∃ entered, q.Atomic contents fault body s entered := by
  obtain ⟨t, hbegin, hcount, hcontents, hmarks⟩ := begin_of_marks h hs
  have ht : Marked marks t := by
    rw [Marked, hmarks, hcount, List.map_cons, hs, markNames]
  have hleft := (hbody t ht).trans hmarks
  have hstill := (hdepth t).trans hcount
  have hentered : q.store.begin.runFrom s = (.ok (), t) := hbegin
  rcases hr : body.runFrom t with ⟨e | a, u⟩ <;> rw [hr] at hleft hstill
  · obtain ⟨v, hrollback, hback, hbelow⟩ := rollback_of_marks h hstill hleft hs
    have hresult : (q.store.transaction fault body).runFrom s = (.error e, v) := by
      have hrollback : q.store.rollback.runFrom u = (.ok (), v) := hrollback
      simp only [Store.runFrom_transaction, hentered, hr, hrollback]
    exact ⟨by rw [hresult]; exact hbelow, t,
      { entry := ⟨hbegin, hcontents⟩
        failed := fun f hf => by rw [hresult, ← hf, hr]
        undone := fun _ _ => by rw [hresult]; exact hback
        kept := fun a ha => by rw [hresult] at ha; cases ha }⟩
  · rcases commit_of_marks h hstill hleft hs with
      ⟨v, hcommit, hkept, hbelow⟩ | ⟨f, v, hcommit, hback, hbelow⟩
    · have hresult : (q.store.transaction fault body).runFrom s = (.ok a, v) := by
        have hcommit : q.store.commit.runFrom u = (.ok (), v) := hcommit
        simp only [Store.runFrom_transaction, hentered, hr, hcommit]
      exact ⟨by rw [hresult]; exact hbelow, t,
        { entry := ⟨hbegin, hcontents⟩
          failed := fun f hf => by rw [hr] at hf; cases hf
          undone := fun f hf => by rw [hresult] at hf; cases hf
          kept := fun b hb => by rw [hresult] at hb ⊢; rw [hr, ← hb]; exact ⟨rfl, hkept⟩ }⟩
    · have hresult : (q.store.transaction fault body).runFrom s = (.error (fault f), v) := by
        have hcommit : q.store.commit.runFrom u = (.error f, v) := hcommit
        simp only [Store.runFrom_transaction, hentered, hr, hcommit]
      exact ⟨by rw [hresult]; exact hbelow, t,
        { entry := ⟨hbegin, hcontents⟩
          failed := fun f hf => by rw [hr] at hf; cases hf
          undone := fun _ _ => by rw [hresult]; exact hback
          kept := fun b hb => by rw [hresult] at hb; cases hb }⟩

end Sqlite

namespace Program

open Sqlite

variable {q : Sqlite σ} {fault : StoreFault → ε} {contents : σ → δ}
  {marks : σ → List (Option String × δ)} {p p' : Program ε α} {s s' : SqliteState σ}
  {n : Nat}

theorem marks_execute (h : q.connection.Marks contents marks) {st : Statement}
    (hst : q.connection.Ordinary marks st) (d : Option Deadline) :
    Keeps (fun s => marks s.connection) (q.execute st d) :=
  keeps_execute (fun text htext s => (h.looks text htext s.connection).2)
    (fun interval question s => (h.watches interval question s.connection).2)
    (fun parameters s => hst parameters s.connection) d

theorem marked_of_marks_eq (hs : Marked marks s) (hmarks : marks s'.connection = marks s.connection)
    (hdepth : s'.depth = s.depth) : Marked marks s' := by
  rw [Marked, hmarks, hdepth]
  exact hs

/-- After a program of ordinary statements, the contents are marked as before. -/
theorem marks_eval (h : q.connection.Marks contents marks)
    (hp : p.All (q.connection.Ordinary marks)) (hs : Marked marks s) :
    marks ((p.eval q.store fault).runFrom s).2.connection = marks s.connection := by
  induction p generalizing s with
  | done outcome => rfl
  | execute st d next ih =>
      rw [eval, runFrom_bind, runFrom_attempt]
      have hmarks := marks_execute h hp.1 d s
      have hafter := marked_of_marks_eq hs hmarks (q.keeps_depth_execute st d s)
      exact (ih _ (hp.2 _) hafter).trans hmarks
  | block body next ihbody ih =>
      rw [eval, runFrom_bind, runFrom_attempt]
      obtain ⟨hmarks, -⟩ := atomic_of_marks h fault (keeps_depth_eval q fault body)
        (fun s hs => ihbody hp.1 hs) hs
      have hafter := marked_of_marks_eq hs hmarks
        (q.keeps_depth_transaction (keeps_depth_eval q fault body) s)
      exact (ih _ (hp.2 _) hafter).trans hmarks

/-- What a block of ordinary statements does. -/
theorem atomic_block (fault : StoreFault → ε) (h : q.connection.Marks contents marks)
    {body : Program ε α} (hbody : body.All (q.connection.Ordinary marks)) (hs : Marked marks s) :
    marks ((q.store.transaction fault (body.eval q.store fault)).runFrom s).2.connection =
        marks s.connection ∧
      ∃ entered, q.Atomic contents fault (body.eval q.store fault) s entered :=
  atomic_of_marks h fault (keeps_depth_eval q fault body) (fun _ hs => marks_eval h hbody hs) hs

/-- At every point of a program, the contents are marked for the blocks that are entered. -/
theorem Reaches.marked (h : q.connection.Marks contents marks)
    (hreaches : Reaches q.store fault p s n p' s') (hp : p.All (q.connection.Ordinary marks))
    (hs : Marked marks s) : Marked marks s' ∧ p'.All (q.connection.Ordinary marks) := by
  induction hreaches with
  | start => exact ⟨hs, hp⟩
  | @executed s t n st d next p hrest ih =>
      exact ih (hp.2 _) (marked_of_marks_eq hs (marks_execute h hp.1 d s)
        (q.keeps_depth_execute st d s))
  | @entered s t u n body next p hbegin hrest ih =>
      obtain ⟨t', ht, hcount, -, hmarks⟩ := begin_of_marks h hs
      obtain rfl : t' = t := (Prod.ext_iff.mp (ht.symm.trans hbegin)).2
      refine ih hp.1 ?_
      rw [Marked, hmarks, hcount, List.map_cons, hs, markNames]
  | @left s t n body next p hrest ih =>
      have hmarks := (atomic_block fault h hp.1 hs).1
      exact ih (hp.2 _) (marked_of_marks_eq hs hmarks
        (q.keeps_depth_transaction (keeps_depth_eval q fault body) s))

/-- Whatever fails, the count of a store is the number of blocks that are entered. On a connection
that marks its contents, a program that begins outside of all transactions has one mark for each
block that is entered, under a name of its own, and none outside of all blocks; each of its blocks
is kept as a whole, or leaves the contents as they were when it was entered. -/
theorem atomic_of_reaches (q : Sqlite σ) (fault : StoreFault → ε) (p : Program ε α)
    (s : SqliteState σ) :
    (∀ n p' s', Reaches q.store fault p s n p' s' → s'.depth = s.depth + n) ∧
      ((p.eval q.store fault).runFrom s).2.depth = s.depth ∧
      ∀ (δ : Type) (contents : σ → δ) (marks : σ → List (Option String × δ)),
        q.connection.Marks contents marks → p.All (q.connection.Ordinary marks) → s.depth = 0 →
        marks s.connection = [] →
        q.connection.inTransaction ((p.eval q.store fault).runFrom s).2.connection = false ∧
        ∀ n p' s', Reaches q.store fault p s n p' s' →
          ((marks s'.connection).length = n ∧ ((marks s'.connection).map Prod.fst).Nodup ∧
            q.connection.inTransaction s'.connection = decide (n ≠ 0)) ∧
          ∀ body next, p' = .block body next →
            marks ((q.store.transaction fault (body.eval q.store fault)).runFrom s').2.connection =
                marks s'.connection ∧
              ∃ entered, q.Atomic contents fault (body.eval q.store fault) s' entered := by
  refine ⟨fun _ _ _ hreaches => hreaches.depth_eq, keeps_depth_eval q fault p s, ?_⟩
  intro δ contents marks h hp hdepth hnone
  have hs : Marked marks s := by rw [Marked, hnone, hdepth, markNames, List.map_nil]
  refine ⟨?_, fun n p' s' hreaches => ?_⟩
  · rw [h.isOpen, marks_eval h hp hs, hnone]
    rfl
  · obtain ⟨hs', hp'⟩ := hreaches.marked h hp hs
    have hcount : s'.depth = n := by
      rw [hreaches.depth_eq, hdepth, Nat.zero_add]
    have hlength : (marks s'.connection).length = n := by
      rw [← List.length_map (f := Prod.fst), hs', length_markNames, hcount]
    refine ⟨⟨hlength, ?_, ?_⟩, ?_⟩
    · rw [hs']
      exact nodup_markNames _
    · rw [h.isOpen, ← hlength]
      cases marks s'.connection <;> simp
    · rintro body next rfl
      exact atomic_block fault h hp'.1 hs'

/-- A block notes a line that cannot be kept, and catches the failure of a block within it: the
inner block is undone where it stands, and the outer one when its end is refused. -/
theorem atomic_of_reaches_refused :
    let q : Sqlite Ledger := ⟨Ledger.connection, 1000⟩
    let inner : Program StoreFault Unit :=
      .execute ⟨"line", [], [], none⟩ none fun _ => .done (.error (.notStorable .noForm))
    let outer : Program StoreFault Unit :=
      .execute ⟨"orphan", [], [], none⟩ none fun _ => .block inner fun _ => .done (.ok ())
    let s : SqliteState Ledger := ⟨⟨[], []⟩, 0⟩
    let s' : SqliteState Ledger := ⟨⟨["orphan"], [(none, [])]⟩, 1⟩
    (∃ entered, q.Atomic Ledger.lines id (inner.eval q.store id) s' entered) ∧
      (∃ e t, (q.store.transaction id (outer.eval q.store id)).runFrom s = (.error e, t) ∧
        t.connection.lines = []) ∧
      (((Program.block outer .done).eval q.store id).runFrom s).2.depth = 0 := by
  intro q inner outer s s'
  have hline : q.connection.Ordinary Ledger.marks ⟨"line", [], [], none⟩ :=
    Ledger.ordinary_of_ofText? rfl
  have horphan : q.connection.Ordinary Ledger.marks ⟨"orphan", [], [], none⟩ :=
    Ledger.ordinary_of_ofText? rfl
  obtain ⟨-, hdepth, hmarked⟩ := atomic_of_reaches q id (.block outer .done) s
  obtain ⟨-, hblocks⟩ := hmarked _ Ledger.lines Ledger.marks Ledger.marks_connection
    ⟨⟨horphan, fun _ => ⟨⟨hline, fun _ => trivial⟩, fun _ => trivial⟩⟩, fun _ => trivial⟩ rfl rfl
  have hbegin : q.store.begin.runFrom s = (.ok (), ⟨⟨[], [(none, [])]⟩, 1⟩) := rfl
  have hnoted : (q.store.execute ⟨"orphan", [], [], none⟩ none).runFrom ⟨⟨[], [(none, [])]⟩, 1⟩ =
      (.ok [], s') := rfl
  have hreaches : Reaches q.store id (.block outer .done) s 1
      (.block inner fun _ => .done (.ok ())) s' := by
    refine .entered hbegin (.executed ?_)
    rw [hnoted]
    exact .start _ _
  obtain ⟨-, hinner⟩ := (hblocks 1 _ s' hreaches).2 inner _ rfl
  obtain ⟨-, entered, houter⟩ := (hblocks 0 _ s (.start _ _)).2 outer _ rfl
  have hundone := houter.undone
  have hrefused :
      ((q.store.transaction id (outer.eval q.store id)).runFrom s).1.toOption = none := by
    decide
  generalize (q.store.transaction id (outer.eval q.store id)).runFrom s = r at hundone hrefused ⊢
  obtain ⟨_ | _, t⟩ := r
  · exact ⟨hinner, ⟨_, t, rfl, hundone _ rfl⟩, hdepth⟩
  · cases hrefused

end Program

end RecordMapper
