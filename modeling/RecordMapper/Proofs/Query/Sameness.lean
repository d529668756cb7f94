import RecordMapper.Proofs.Sql.Alike
import RecordMapper.Proofs.Value.Comparison
import RecordMapper.Proofs.Value.Identity

/-! # Queries of one key

Two queries of one key differ in what they bind only, and what they bind at one place is not told
apart by the key. -/

namespace RecordMapper

/-- Two parameters that a key does not tell apart, the second of them in a key. -/
inductive Parameter.SameKey : Parameter → Parameter → Prop where
  | value {v w : Value} : Value.identical? v w = some true → w.isHashable = true →
      SameKey (.value v) (.value w)
  | item {t u : Term} : Term.same? t u = some true → SameKey (.item t) (.item u)

/-- Two values that are equal where no term stands. -/
def Value.SamePlain (v w : Value) : Prop := Value.equal? v w = some true

/-- Every one of the values can be in a key. -/
def Value.AllKeys (vs : List Value) : Prop := ∀ v ∈ vs, v.isHashable = true

namespace Value

@[simp] theorem allKeys_append {vs ws : List Value} :
    AllKeys (vs ++ ws) ↔ AllKeys vs ∧ AllKeys ws := List.forall_mem_append

theorem identical?_int (i : Int) : identical? (.int i) (.int i) = some true := by
  simp [identical?, equalInKind?, equal?, number?, sameNumber?, Number.Decimal.ofInt,
    Number.Decimal.isSignaling, Number.Decimal.compare?, Number.Decimal.compareFinite_self]

end Value

namespace Term

theorem both?_eq_some_true {a b : Option Bool} :
    both? a b = some true ↔ a = some true ∧ b = some true := by
  cases a with
  | none => simp [both?]
  | some a => cases a <;> simp [both?]

/-! ## Terms -/

theorem isTerm_eq_of_same? {t u : Term} (h : same? t u = some true) : t.isTerm = u.isTerm := by
  cases t <;> cases u <;> first | rfl | cases h | simp [same?] at h

theorem values_inPlace (t : Term) : t.inPlace.values = t.values := by
  cases t <;> rfl

theorem inPlace_of_isTerm {t : Term} (h : t.isTerm = true) : t.inPlace = t := by
  cases t <;> first | rfl | cases h

/-- What is bound in the places of two parameters of one key is of one key. -/
theorem same?_inPlace {t u : Term} (h : same? t u = some true)
    (hplain : ∀ v w, t = .plain v → u = .plain w → False) :
    same? t.inPlace u.inPlace = some true := by
  have hterm := isTerm_eq_of_same? h
  cases t with
  | order t d =>
      cases u with
      | order u e => exact h
      | _ => cases h
  | pair t word =>
      cases u with
      | pair u word' => exact h
      | _ => cases h
  | plain v =>
      cases u with
      | plain w => exact (hplain v w rfl rfl).elim
      | _ => cases h
  | _ => rwa [inPlace_of_isTerm rfl, inPlace_of_isTerm hterm.symm]

theorem sameParams?_cons {t u : Term} {ts us : List Term}
    (h : sameParams? (t :: ts) (u :: us) = some true) :
    same? t.inPlace u.inPlace = some true ∧ sameParams? ts us = some true := by
  by_cases hplain : ∃ v w, t = .plain v ∧ u = .plain w
  · obtain ⟨v, w, rfl, rfl⟩ := hplain
    rw [sameParams?, both?_eq_some_true] at h
    exact h
  · have hplain : ∀ v w, t = .plain v → u = .plain w → False :=
      fun v w ht hu => hplain ⟨v, w, ht, hu⟩
    rw [sameParams?, both?_eq_some_true] at h
    · exact ⟨same?_inPlace h.1 hplain, h.2⟩
    · exact hplain

theorem revalued_of_literal {t u : Term} {p : Parameter} (ht : t.literal? = some p)
    (h : same? t u = some true) (hkey : Value.AllKeys u.values) :
    Revalued Parameter.SameKey Value.SamePlain t u := by
  cases t with
  | literal v =>
      cases u with
      | literal w =>
          have hnull : (literal v).isNullLiteral = (literal w).isNullLiteral := by
            have hnull := Value.isNull_eq_of_identical? h
            cases v <;> cases w <;> first | rfl | cases hnull
          exact .literal rfl rfl hnull (.value h (hkey w (by simp [values])))
      | _ => cases h
  | held t =>
      cases u with
      | held u => exact .literal rfl rfl rfl (.item h)
      | _ => cases h
  | _ => cases ht

mutual

/-- Terms of one key differ in what they bind only. -/
theorem revalued_of_same? : ∀ {t u : Term}, same? t u = some true → Value.AllKeys u.values →
    Revalued Parameter.SameKey Value.SamePlain t u
  | .literal v, u, h, hkey => revalued_of_literal rfl h hkey
  | .held item, u, h, hkey => revalued_of_literal rfl h hkey
  | .field b n, u, h, hkey => by
      cases u with
      | field c m =>
          obtain ⟨rfl, rfl⟩ : b = c ∧ n = m := by simpa [same?] using h
          exact .field b n
      | _ => cases h
  | .binary op l r, u, h, hkey => by
      cases u with
      | binary op' l' r' =>
          rw [same?] at h
          split at h
          · rename_i hop
            obtain ⟨hl, hr⟩ := both?_eq_some_true.mp h
            obtain ⟨hkeyl, hkeyr⟩ := Value.allKeys_append.mp hkey
            rw [hop]
            exact .binary op' (revalued_of_same? hl hkeyl) (revalued_of_same? hr hkeyr)
          · cases h
      | _ => cases h
  | .connected op ts, u, h, hkey => by
      cases u with
      | connected op' us =>
          rw [same?] at h
          split at h
          · rename_i hop
            rw [hop]
            exact .connected op' (revalued_of_sameLists? h hkey)
          · cases h
      | _ => cases h
  | .not t, u, h, hkey => by
      cases u with
      | not u => exact .not (revalued_of_same? h hkey)
      | _ => cases h
  | .isNull t negated, u, h, hkey => by
      cases u with
      | isNull u negated' =>
          obtain ⟨ht, hnegated⟩ := both?_eq_some_true.mp h
          obtain rfl : negated = negated' := by simpa using hnegated
          exact .isNull negated (revalued_of_same? ht hkey)
      | _ => cases h
  | .inList t ts negated, u, h, hkey => by
      cases u with
      | inList u us negated' =>
          obtain ⟨ht, h⟩ := both?_eq_some_true.mp h
          obtain ⟨hts, hnegated⟩ := both?_eq_some_true.mp h
          obtain ⟨hkeyt, hkeyts⟩ := Value.allKeys_append.mp hkey
          obtain rfl : negated = negated' := by simpa using hnegated
          exact .inList negated (revalued_of_same? ht hkeyt) (revalued_of_sameLists? hts hkeyts)
      | _ => cases h
  | .aggregate f none distinct, u, h, hkey => by
      cases u with
      | aggregate f' operand distinct' =>
          cases operand with
          | none =>
              obtain ⟨rfl, rfl⟩ : f = f' ∧ distinct = distinct' := by simpa [same?] using h
              exact .aggregateRows f distinct
          | some u => cases h
      | _ => simp [same?] at h
  | .aggregate f (some t) distinct, u, h, hkey => by
      cases u with
      | aggregate f' operand distinct' =>
          cases operand with
          | none => cases h
          | some u =>
              rw [same?] at h
              split at h
              · rename_i hf
                obtain ⟨ht, hdistinct⟩ := both?_eq_some_true.mp h
                obtain rfl : distinct = distinct' := by simpa using hdistinct
                rw [hf]
                exact .aggregate f' distinct (revalued_of_same? ht hkey)
              · cases h
      | _ => simp [same?] at h
  | .fragment raw ts, u, h, hkey => by
      cases u with
      | fragment raw' us =>
          rw [same?] at h
          split at h
          · rename_i hraw
            rw [hraw]
            exact .fragment raw' (revalued_of_sameParams? h hkey)
          · cases h
      | _ => cases h
  | .alias t n, u, h, hkey => by
      cases u with
      | «alias» u n' =>
          obtain ⟨ht, hname⟩ := both?_eq_some_true.mp h
          obtain rfl : n = n' := by simpa using hname
          exact .named n (revalued_of_same? ht hkey)
      | _ => cases h
  | .order t d, u, h, hkey => by
      cases u with
      | order u d' =>
          obtain ⟨-, hdirection⟩ := both?_eq_some_true.mp h
          obtain rfl : d = d' := by simpa using hdirection
          exact .order t u d
      | _ => cases h
  | .pair t word, u, h, hkey => by
      cases u with
      | pair u word' =>
          obtain ⟨-, hword⟩ := both?_eq_some_true.mp h
          obtain rfl : word = word' := by simpa using hword
          exact .pair t u word
      | _ => cases h
  | .plain v, u, h, hkey => by
      cases u with
      | plain w => exact .plain h
      | _ => cases h

theorem revalued_of_sameLists? : ∀ {ts us : List Term}, sameLists? ts us = some true →
    Value.AllKeys (allValues us) →
    List.Forall₂ (Revalued Parameter.SameKey Value.SamePlain) ts us
  | [], us, h, hkey => by
      cases us with
      | nil => exact .nil
      | cons u us => cases h
  | t :: ts, us, h, hkey => by
      cases us with
      | nil => cases h
      | cons u us =>
          obtain ⟨ht, hts⟩ := both?_eq_some_true.mp h
          obtain ⟨hkeyt, hkeyts⟩ := Value.allKeys_append.mp hkey
          exact .cons (revalued_of_same? ht hkeyt) (revalued_of_sameLists? hts hkeyts)

theorem revalued_of_sameParams? : ∀ {ts us : List Term}, sameParams? ts us = some true →
    Value.AllKeys (allValues us) →
    List.Forall₂ (fun t u => Revalued Parameter.SameKey Value.SamePlain t.inPlace u.inPlace) ts us
  | [], us, h, hkey => by
      cases us with
      | nil => exact .nil
      | cons u us => cases h
  | t :: ts, us, h, hkey => by
      cases us with
      | nil => simp [sameParams?] at h
      | cons u us =>
          obtain ⟨ht, hts⟩ := sameParams?_cons h
          obtain ⟨hkeyt, hkeyts⟩ := Value.allKeys_append.mp hkey
          rw [← values_inPlace u] at hkeyt
          refine .cons ?_ (revalued_of_sameParams? hts hkeyts)
          cases hp : Parameter.ofTerm? t with
          | some p =>
              rw [inPlace_of_some hp] at ht ⊢
              exact revalued_of_literal (literal?_toTerm p) ht hkeyt
          | none =>
              rw [inPlace_of_none hp] at ht ⊢
              exact revalued_of_same? ht hkeyt

end

end Term

/-! ## Clauses -/

theorem Clause.revalued_of_orderTerms : ∀ {xs ys : List (Term × Direction)},
    Term.sameLists? (orderTerms xs) (orderTerms ys) = some true →
    Value.AllKeys (Term.allValues (ys.map Prod.fst)) →
    List.Forall₂ (fun x y => Term.Revalued Parameter.SameKey Value.SamePlain x.1 y.1 ∧ x.2 = y.2)
      xs ys
  | [], [], _, _ => .nil
  | [], _ :: _, h, _ => by cases h
  | _ :: _, [], h, _ => by cases h
  | (t, d) :: xs, (u, d') :: ys, h, hkey => by
      obtain ⟨hfirst, hrest⟩ := Term.both?_eq_some_true.mp h
      obtain ⟨ht, hdirection⟩ := Term.both?_eq_some_true.mp hfirst
      obtain ⟨hkeyt, hkeys⟩ := Value.allKeys_append.mp hkey
      have hterm := Term.revalued_of_same? ht hkeyt
      exact .cons ⟨hterm, by simpa using hdirection⟩ (revalued_of_orderTerms hrest hkeys)

theorem Clause.revalued_of_same? {c c' : Clause} (h : c.same? c' = some true)
    (hkey : Value.AllKeys c'.values) : c.Revalued Parameter.SameKey Value.SamePlain c' := by
  cases c with
  | source name binding =>
      cases c' with
      | source name' binding' =>
          obtain ⟨rfl, rfl⟩ : name = name' ∧ binding = binding' := by simpa [same?] using h
          exact .source name binding
      | _ => cases h
  | join target binding on kind =>
      cases c' with
      | join target' binding' on' kind' =>
          rw [same?] at h
          split at h
          · rename_i hjoin
            obtain ⟨rfl, rfl⟩ := hjoin
            obtain ⟨hon, hkind⟩ := Term.both?_eq_some_true.mp h
            obtain rfl : kind = kind' := by simpa using hkind
            refine .join target binding kind ?_
            cases on with
            | none =>
                cases on' with
                | none => exact .none
                | some u => cases hon
            | some t =>
                cases on' with
                | none => cases hon
                | some u => exact .some (Term.revalued_of_same? hon hkey)
          · cases h
      | _ => cases h
  | filter t onGroups op =>
      cases c' with
      | filter u onGroups' op' =>
          obtain ⟨ht, h⟩ := Term.both?_eq_some_true.mp h
          obtain ⟨rfl, rfl⟩ : onGroups = onGroups' ∧ op = op' := by simpa using h
          exact .filter onGroups op (Term.revalued_of_same? ht hkey)
      | _ => cases h
  | select ts =>
      cases c' with
      | select us => exact .select (Term.revalued_of_sameLists? h hkey)
      | _ => cases h
  | distinct =>
      cases c' with
      | distinct => exact .distinct
      | _ => cases h
  | groupBy ts =>
      cases c' with
      | groupBy us => exact .groupBy (Term.revalued_of_sameLists? h hkey)
      | _ => cases h
  | orderBy xs =>
      cases c' with
      | orderBy ys => exact .orderBy (revalued_of_orderTerms h hkey)
      | _ => cases h
  | limit m =>
      cases c' with
      | limit n =>
          obtain rfl : m = n := by simpa [same?] using h
          exact .limit (.value (Value.identical?_int m) rfl)
      | _ => cases h
  | offset m =>
      cases c' with
      | offset n =>
          obtain rfl : m = n := by simpa [same?] using h
          exact .offset (.value (Value.identical?_int m) rfl)
      | _ => cases h
  | fragment raw ts =>
      cases c' with
      | fragment raw' us =>
          rw [same?] at h
          split at h
          · rename_i hraw
            rw [hraw]
            exact .fragment raw' (Term.revalued_of_sameParams? h hkey)
          · cases h
      | _ => cases h

/-! ## Queries -/

namespace Query

theorem sameClauses?_eq_some_true {cs cs' : List Clause} :
    sameClauses? cs cs' = some true ↔
      List.Forall₂ (fun c c' => Clause.same? c c' = some true) cs cs' := by
  induction cs generalizing cs' with
  | nil => cases cs' <;> simp [sameClauses?]
  | cons c cs ih =>
      cases cs' with
      | nil => simp [sameClauses?]
      | cons c' cs' =>
          rw [sameClauses?, List.forall₂_cons, ← ih]
          split <;> simp [Term.both?_eq_some_true, and_comm]

theorem revalued_of_sameClauses? {cs cs' : List Clause} (h : sameClauses? cs cs' = some true)
    (hkey : ∀ c ∈ cs', Value.AllKeys c.values) :
    List.Forall₂ (Clause.Revalued Parameter.SameKey Value.SamePlain) cs cs' := by
  have hclauses := sameClauses?_eq_some_true.mp h
  clear h
  induction hclauses with
  | nil => exact .nil
  | cons hc _ ih =>
      obtain ⟨hkeyc, hkeycs⟩ := List.forall_mem_cons.mp hkey
      exact .cons (Clause.revalued_of_same? hc hkeyc) (ih hkeycs)

/-- Queries of one key differ in what they bind only. -/
theorem revalued_of_same {q r : Query} (h : q.same r = true) (hkey : Value.AllKeys r.values) :
    q.Revalued Parameter.SameKey Value.SamePlain r := by
  have hkeys : ∀ c ∈ r.clauses.reverse, Value.AllKeys c.values := by
    intro c hc v hv
    exact hkey v (List.mem_flatMap.mpr ⟨c, List.mem_reverse.mp hc, hv⟩)
  have hsame : q.same? r = some true := by simpa [same] using h
  rw [same?] at hsame
  split at hsame
  · have hreversed := revalued_of_sameClauses? hsame hkeys
    have hclauses := List.forall₂_reverse_iff.mp hreversed
    cases hclauses with
    | cons hroot hrest => exact ⟨hroot, hrest⟩
  · cases hsame

end Query

end RecordMapper
