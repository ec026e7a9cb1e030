import Mathlib.Data.List.Nodup
import SearchAnnotation.Proofs.WrittenValues

/-!
# Values that survive the writing

A value comes back from its JSON text as it was exactly if no two surrogates of one pair stand next
to each other in it, all its undefined numbers are the one that has a name, and the fields of each
of its objects have different names. Besides, nothing that counts as given comes back as something
that does not, and a key that is no string with surrogates is shown as before.
-/

namespace SearchAnnotation

namespace Encoding

/-- Whether no leading surrogate stands right in front of a trailing one. -/
def hasNoPair : List Nat → Bool
  | high :: low :: rest => !(isHigh high && isLow low) && hasNoPair (low :: rest)
  | _ => true

theorem length_joinPairs_le (codes : List Nat) : (joinPairs codes).length ≤ codes.length := by
  fun_induction joinPairs codes with
  | case1 high low rest pair ih =>
    simp only [List.length_cons]
    omega
  | case2 high low rest single ih =>
    simp only [List.length_cons] at ih ⊢
    omega
  | case3 => exact le_rfl

/-- Joining changes nothing just where there is no pair. -/
theorem joinPairs_eq_self_iff {codes : List Nat} :
    joinPairs codes = codes ↔ hasNoPair codes = true := by
  fun_induction joinPairs codes with
  | case1 high low rest pair ih =>
    have hshort := length_joinPairs_le rest
    have hpair : hasNoPair (high :: low :: rest) = false := by rw [hasNoPair, pair]; rfl
    rw [hpair]
    refine iff_of_false (fun h => ?_) Bool.false_ne_true
    have hlength := congrArg List.length h
    simp only [List.length_cons] at hlength
    omega
  | case2 high low rest single ih =>
    rw [hasNoPair, Bool.eq_false_iff.mpr single, Bool.not_false, Bool.true_and, ← ih,
      List.cons.injEq, and_iff_right rfl]
  | case3 codes single =>
    refine iff_of_true rfl ?_
    rw [hasNoPair]
    exact single

end Encoding

namespace Fields

variable {fields : Fields} {name : Name} {v : Value} {pairs : List (Name × Value)}

theorem names_put_of_mem (h : name ∈ fields.map Prod.fst) :
    (put fields name v).map Prod.fst = fields.map Prod.fst := by
  induction fields with
  | nil => cases h
  | cons field rest ih =>
    rw [put]
    split
    · rfl
    · next hne =>
      have hrest := (List.mem_cons.mp h).resolve_left (Ne.symm hne)
      rw [List.map_cons, List.map_cons, ih hrest]

theorem put_of_notMem (h : name ∉ fields.map Prod.fst) :
    put fields name v = fields ++ [(name, v)] := by
  induction fields with
  | nil => rfl
  | cons field rest ih =>
    rw [List.map_cons, List.mem_cons, not_or] at h
    rw [put, if_neg (Ne.symm h.1), ih h.2, List.cons_append]

theorem mem_names_put {other : Name} :
    other ∈ (put fields name v).map Prod.fst ↔ other ∈ fields.map Prod.fst ∨ other = name := by
  by_cases h : name ∈ fields.map Prod.fst
  · rw [names_put_of_mem h]
    exact ⟨.inl, fun hm => hm.elim id fun he => he ▸ h⟩
  · rw [put_of_notMem h, List.map_append, List.mem_append, List.map_singleton, List.mem_singleton]

theorem nodup_names_put (h : (fields.map Prod.fst).Nodup) :
    ((put fields name v).map Prod.fst).Nodup := by
  by_cases hm : name ∈ fields.map Prod.fst
  · rw [names_put_of_mem hm]
    exact h
  · rw [put_of_notMem hm, List.map_append]
    exact List.nodup_append'.mpr ⟨h, List.nodup_singleton name,
      List.disjoint_singleton.mpr hm⟩

theorem mem_names_foldl {other : Name} :
    other ∈ (pairs.foldl (fun fields pair => put fields pair.1 pair.2) fields).map Prod.fst ↔
      other ∈ fields.map Prod.fst ∨ other ∈ pairs.map Prod.fst := by
  induction pairs generalizing fields with
  | nil => simp
  | cons pair rest ih =>
    rw [List.foldl_cons, ih, mem_names_put, List.map_cons, List.mem_cons, or_assoc]

theorem nodup_names_foldl (h : (fields.map Prod.fst).Nodup) :
    ((pairs.foldl (fun fields pair => put fields pair.1 pair.2) fields).map Prod.fst).Nodup := by
  induction pairs generalizing fields with
  | nil => exact h
  | cons pair rest ih => exact ih (nodup_names_put h)

theorem foldl_of_nodup (h : ((fields ++ pairs).map Prod.fst).Nodup) :
    pairs.foldl (fun fields pair => put fields pair.1 pair.2) fields = fields ++ pairs := by
  induction pairs generalizing fields with
  | nil => rw [List.foldl_nil, List.append_nil]
  | cons pair rest ih =>
    have hnew : pair.1 ∉ fields.map Prod.fst := by
      rw [List.map_append, List.nodup_append'] at h
      exact fun hm => h.2.2 hm List.mem_cons_self
    rw [List.foldl_cons, put_of_notMem hnew, ih, List.append_assoc, List.singleton_append]
    rw [List.append_assoc]
    exact h

/-- Pairs are fields as they are just if their names differ. -/
theorem ofPairs_of_nodup (h : (pairs.map Prod.fst).Nodup) : ofPairs pairs = pairs :=
  foldl_of_nodup h

theorem nodup_ofPairs (pairs : List (Name × Value)) : ((ofPairs pairs).map Prod.fst).Nodup :=
  nodup_names_foldl List.nodup_nil

/-- No field is lost just if the names of the pairs differ. -/
theorem nodup_of_length_ofPairs (h : (ofPairs pairs).length = pairs.length) :
    (pairs.map Prod.fst).Nodup := by
  have hsub : (ofPairs pairs).map Prod.fst ⊆ pairs.map Prod.fst := fun name hm =>
    (mem_names_foldl.mp hm).resolve_left List.not_mem_nil
  have hperm := (List.subperm_of_subset (nodup_ofPairs pairs) hsub).perm_of_length_le (by
    rw [List.length_map, List.length_map, h])
  exact hperm.nodup_iff.mp (nodup_ofPairs pairs)

end Fields

theorem Name.reread_eq_self_iff {name : Name} :
    name.reread = name ↔ Encoding.hasNoPair name.codes = true := by
  rw [reread, ← Encoding.joinPairs_eq_self_iff, ← codes_inj, codes_ofCodes]

theorem Name.reread_text (s : String) : (Name.text s).reread = .text s := by
  rw [reread, codes, Json.joinPairs_text, ← codes, ofCodes_codes]

namespace Value

mutual

/-- Whether a value comes back from its text as it was. -/
def survives : Value → Bool
  | .float x => !x.isNaN || x == .nan
  | .unpaired u => Encoding.hasNoPair u.codes
  | .list items => survivesItems items
  | .object fields => decide (fields.map Prod.fst).Nodup && survivesFields fields
  | _ => true

/-- Whether all items come back as they were. -/
def survivesItems : List Value → Bool
  | [] => true
  | v :: rest => survives v && survivesItems rest

/-- Whether all names and values come back as they were. -/
def survivesFields : List (Name × Value) → Bool
  | [] => true
  | (name, v) :: rest =>
    Encoding.hasNoPair name.codes && survives v && survivesFields rest

end

theorem length_rereadFields (fields : List (Name × Value)) :
    (rereadFields fields).length = fields.length := by
  induction fields with
  | nil => rfl
  | cons field rest ih => rw [rereadFields, List.length_cons, List.length_cons, ih]

mutual

/-- Just the values that survive are read back as they were. -/
theorem reread_eq_self_iff (v : Value) : v.reread = v ↔ v.survives = true := by
  match v with
  | .null | .bool _ | .int _ | .text _ => exact iff_of_true rfl rfl
  | .float x =>
    rw [reread, survives, Value.float.injEq, Bool.or_eq_true, Bool.not_eq_true', beq_iff_eq]
    cases x.isNaN with
    | true => simp [eq_comm]
    | false => simp
  | .unpaired u =>
    rw [reread, survives, ← Name.codes, ← Name.reread_eq_self_iff, ← ofName_inj]
    exact Iff.rfl
  | .list items => rw [reread, survives, Value.list.injEq, rereadItems_eq_self_iff items]
  | .object fields =>
    rw [reread, survives, Value.object.injEq, Bool.and_eq_true, decide_eq_true_eq,
      ← rereadFields_eq_self_iff fields]
    constructor
    · intro h
      have hnodup : ((rereadFields fields).map Prod.fst).Nodup := by
        refine Fields.nodup_of_length_ofPairs ?_
        rw [h, length_rereadFields]
      rw [Fields.ofPairs_of_nodup hnodup] at h
      exact ⟨h ▸ hnodup, h⟩
    · rintro ⟨hnodup, h⟩
      rw [h, Fields.ofPairs_of_nodup hnodup]

theorem rereadItems_eq_self_iff (items : List Value) :
    rereadItems items = items ↔ survivesItems items = true := by
  match items with
  | [] => exact iff_of_true rfl rfl
  | v :: rest =>
    rw [rereadItems, survivesItems, List.cons.injEq, Bool.and_eq_true, reread_eq_self_iff v,
      rereadItems_eq_self_iff rest]

theorem rereadFields_eq_self_iff (fields : List (Name × Value)) :
    rereadFields fields = fields ↔ survivesFields fields = true := by
  match fields with
  | [] => exact iff_of_true rfl rfl
  | (name, v) :: rest =>
    rw [rereadFields, survivesFields, List.cons.injEq, Prod.mk.injEq, Bool.and_eq_true,
      Bool.and_eq_true, Name.reread_eq_self_iff, reread_eq_self_iff v,
      rereadFields_eq_self_iff rest]

end

theorem isTrivial_ofName (name : Name) : (ofName name).isTrivial = name.codes.isEmpty := by
  cases name with
  | text s =>
    rw [ofName, isTrivial, Name.codes, List.isEmpty_map, Bool.eq_iff_iff, List.isEmpty_iff,
      String.isEmpty_iff, String.toList_eq_nil_iff]
  | unpaired u => rfl

/-- A value counts as given just if what comes back of it does. -/
theorem isTrivial_reread (v : Value) : v.reread.isTrivial = v.isTrivial := by
  cases v with
  | float x =>
    cases hnan : x.isNaN with
    | true =>
      have hzero : x.isZero = false := by
        rw [Binary64.isNaN, Bool.and_eq_true, beq_iff_eq] at hnan
        rw [Binary64.isZero, hnan.1]
        rfl
      simp only [reread, hnan, if_true, isTrivial, hzero]
      rfl
    | false => simp only [reread, hnan, Bool.false_eq_true, if_false]
  | unpaired u =>
    have hjoin : (Encoding.joinPairs u.codes).isEmpty = u.codes.isEmpty := by
      fun_cases Encoding.joinPairs u.codes <;> simp_all
    rw [reread, ofCodes, isTrivial_ofName, Name.codes_ofCodes, hjoin, isTrivial]
  | list items => cases items <;> rfl
  | object fields =>
    cases fields with
    | nil => rfl
    | cons field rest =>
      obtain ⟨name, v⟩ := field
      have hname : name.reread ∈ (Fields.ofPairs (rereadFields ((name, v) :: rest))).map Prod.fst :=
        Fields.mem_names_foldl.mpr (.inr List.mem_cons_self)
      rw [reread, isTrivial, isTrivial, List.isEmpty_cons, List.isEmpty_eq_false_iff]
      intro hnone
      rw [hnone] at hname
      cases hname
  | _ => rfl

/-- A key that is no string with surrogates is read back as something that is shown alike. -/
theorem displayCodes_reread {v : Value} (key : v.isKey = true) (paired : ∀ u, v ≠ .unpaired u) :
    v.reread.displayCodes = v.displayCodes := by
  cases v with
  | float x =>
    cases hnan : x.isNaN with
    | true =>
      have hdisplay : (Value.float .nan).display = (Value.float x).display := by
        have hnamed : Binary64.nan.isNaN = true := by decide
        simp only [display, literal, Binary64.render_of_isNaN _ hnan,
          Binary64.render_of_isNaN _ hnamed]
      simp only [reread, hnan, if_true, displayCodes, hdisplay]
    | false => simp only [reread, hnan, Bool.false_eq_true, if_false]
  | unpaired u => exact absurd rfl (paired u)
  | list items => cases key
  | object fields => cases key
  | _ => rfl

end Value

end SearchAnnotation
