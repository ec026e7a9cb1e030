import SearchAnnotation.Proofs.BuiltResults

/-!
# Shapes of records

Results can be built from records exactly if each record is an object with an address that can be a
key and with a snippet that can be flattened. Only a structured snippet can fail to be flat: its
fragments must have elements, and the texts of those that are objects must be strings. Nothing else
that a record holds matters.
-/

namespace SearchAnnotation

namespace Snippet

/-- Whether a fragment has a text: it is no object, or its text is a string or missing. -/
def IsFragment (v : Value) : Prop :=
  ∀ fields text, v = .object fields → Fields.get? fields "text" = some text →
    text.isString = true

/-- Whether a snippet can be flattened: if it is structured, its fragments are trivial, or they
are elements that have texts. -/
def Flattenable (snippet : Value) : Prop :=
  ∀ fields inner, snippet = .object fields → Fields.get? fields "text" = some (.object inner) →
    (Fields.get inner "fragments").isTrivial = true ∨
      ∃ parts, (Fields.get inner "fragments").elements = .ok parts ∧
        ∀ part ∈ parts, IsFragment part

theorem textCodes?_isSome (v : Value) : (textCodes? v).isSome = v.isString := by
  cases v <;> rfl

/-- Just the fragments that have texts contribute code points. -/
theorem fragmentCodes_ok_iff {v : Value} :
    (∃ codes, fragmentCodes v = .ok codes) ↔ IsFragment v := by
  cases v with
  | object fields =>
    cases htext : Fields.get? fields "text" with
    | none =>
      have hcodes : fragmentCodes (.object fields) = .ok [] := by
        simp only [fragmentCodes, htext]
      refine iff_of_true ⟨[], hcodes⟩ fun fields' text hobject hsome => ?_
      cases hobject
      rw [htext] at hsome
      cases hsome
    | some text =>
      have hstring := textCodes?_isSome text
      cases hcodes : textCodes? text with
      | none =>
        have hfault : fragmentCodes (.object fields) = .error .wrongKind := by
          simp only [fragmentCodes, htext, hcodes]
        rw [hcodes] at hstring
        refine iff_of_false (fun ⟨codes, hok⟩ => ?_) fun h => ?_
        · rw [hfault] at hok
          cases hok
        · rw [h fields text rfl htext] at hstring
          cases hstring
      | some codes =>
        have hok : fragmentCodes (.object fields) = .ok codes := by
          simp only [fragmentCodes, htext, hcodes]
        rw [hcodes] at hstring
        refine iff_of_true ⟨codes, hok⟩ fun fields' text' hobject hsome => ?_
        cases hobject
        rw [htext] at hsome
        cases hsome
        exact hstring.symm
  | _ =>
    refine iff_of_true ⟨_, rfl⟩ fun fields text hobject => ?_
    cases hobject

/-- Fragments can be joined if each of them has a text. -/
theorem joinFragments_ok_iff {parts : List Value} :
    (∃ codes, joinFragments parts = .ok codes) ↔ ∀ part ∈ parts, IsFragment part := by
  induction parts with
  | nil => exact iff_of_true ⟨[], rfl⟩ fun part hm => nomatch hm
  | cons part rest ih =>
    rw [List.forall_mem_cons, ← fragmentCodes_ok_iff, ← ih]
    constructor
    · rintro ⟨codes, h⟩
      obtain ⟨head, hhead, h⟩ := Outcome.bind_eq_ok.mp h
      obtain ⟨tail, htail, -⟩ := Outcome.bind_eq_ok.mp h
      exact ⟨⟨head, hhead⟩, tail, htail⟩
    · rintro ⟨⟨head, hhead⟩, tail, htail⟩
      exact ⟨head ++ tail, Outcome.bind_eq_ok.mpr ⟨head, hhead,
        Outcome.bind_eq_ok.mpr ⟨tail, htail, rfl⟩⟩⟩

/-- A structured snippet is flat exactly if its fragments are trivial or have texts. -/
theorem structured_ok_iff {inner : Fields} :
    (∃ flat, (do
      let parts ← fragments (Fields.get inner "fragments")
      let joined ← joinFragments parts
      return Value.ofCodes joined) = (.ok flat : Except ShapeFault Value)) ↔
      (Fields.get inner "fragments").isTrivial = true ∨
        ∃ parts, (Fields.get inner "fragments").elements = .ok parts ∧
          ∀ part ∈ parts, IsFragment part := by
  constructor
  · rintro ⟨flat, h⟩
    obtain ⟨parts, hparts, h⟩ := Outcome.bind_eq_ok.mp h
    obtain ⟨joined, hjoined, -⟩ := Outcome.bind_eq_ok.mp h
    unfold fragments at hparts
    split at hparts
    · next htrivial => exact .inl htrivial
    · exact .inr ⟨parts, hparts, joinFragments_ok_iff.mp ⟨joined, hjoined⟩⟩
  · intro h
    by_cases htrivial : (Fields.get inner "fragments").isTrivial = true
    · have hparts : fragments (Fields.get inner "fragments") = .ok [] := by
        rw [fragments, if_pos htrivial]
      exact ⟨_, Outcome.bind_eq_ok.mpr ⟨[], hparts, rfl⟩⟩
    · obtain ⟨parts, helements, hfragments⟩ := h.resolve_left htrivial
      obtain ⟨joined, hjoined⟩ := joinFragments_ok_iff.mpr hfragments
      have hparts : fragments (Fields.get inner "fragments") = .ok parts := by
        rw [fragments, if_neg htrivial, helements]
      exact ⟨_, Outcome.bind_eq_ok.mpr ⟨parts, hparts,
        Outcome.bind_eq_ok.mpr ⟨joined, hjoined, rfl⟩⟩⟩

/-- Just the snippets that can be flattened have a flat form. -/
theorem flatten_ok_iff {snippet : Value} :
    (∃ flat, flatten snippet = .ok flat) ↔ Flattenable snippet := by
  cases snippet with
  | object fields =>
    have plain : (∃ flat, flatten (.object fields) = .ok flat) →
        (∀ inner, Fields.get? fields "text" ≠ some (.object inner)) →
        ((∃ flat, flatten (.object fields) = .ok flat) ↔ Flattenable (.object fields)) := by
      intro hok hnone
      refine iff_of_true hok fun fields' inner hobject hinner => ?_
      cases hobject
      exact absurd hinner (hnone inner)
    cases htext : Fields.get? fields "text" with
    | none =>
      refine plain ⟨.null, by simp only [flatten, htext]⟩ fun inner hinner => ?_
      rw [htext] at hinner
      cases hinner
    | some text =>
      cases text with
      | object inner =>
        have hflatten : flatten (.object fields) = (do
            let parts ← fragments (Fields.get inner "fragments")
            let joined ← joinFragments parts
            return Value.ofCodes joined) := by
          simp only [flatten, htext]
        rw [hflatten]
        refine structured_ok_iff.trans ⟨fun h fields' inner' hobject hinner => ?_, fun h => ?_⟩
        · cases hobject
          rw [htext] at hinner
          cases hinner
          exact h
        · exact h fields inner rfl htext
      | _ =>
        refine plain ⟨_, by simp only [flatten, htext]; rfl⟩ fun inner hinner => ?_
        rw [htext] at hinner
        cases hinner
  | _ =>
    refine iff_of_true ⟨_, rfl⟩ fun fields inner hobject => ?_
    cases hobject

end Snippet

namespace SearchResult

/-- Whether a record can become a result: it is an object with an address that can be a key, and
with a snippet that can be flattened. -/
def Usable (record : Value) : Prop :=
  ∃ fields url, record = .object fields ∧ Fields.get? fields "url" = some url ∧
    url.isKey = true ∧ Snippet.Flattenable (Fields.get fields "snippet")

theorem urlOf_eq_ok {fields : Fields} {url : Value} :
    Webpage.urlOf fields = .ok url ↔ Fields.get? fields "url" = some url := by
  unfold Webpage.urlOf
  cases Fields.get? fields "url" with
  | none => exact iff_of_false nofun nofun
  | some other => rw [Except.ok.injEq, Option.some.injEq]

theorem fieldsOf_eq_ok {record : Value} {fields : Fields} :
    Webpage.fieldsOf record = .ok fields ↔ record = .object fields := by
  cases record with
  | object others => rw [Webpage.fieldsOf, Except.ok.injEq, Value.object.injEq]
  | _ => exact iff_of_false nofun nofun

/-- The page of a record has the address of the record. -/
theorem url_of_ofRecord {record : Value} {page : Webpage}
    (h : Webpage.ofRecord record = .ok page) :
    ∃ fields, record = .object fields ∧ Fields.get? fields "url" = some page.url := by
  obtain ⟨fields, hfields, h⟩ := Outcome.bind_eq_ok.mp h
  obtain ⟨url, hurl, h⟩ := Outcome.bind_eq_ok.mp h
  obtain ⟨flat, -, h⟩ := Outcome.bind_eq_ok.mp h
  cases h
  exact ⟨fields, fieldsOf_eq_ok.mp hfields, urlOf_eq_ok.mp hurl⟩

/-- Just the usable records have pages. -/
theorem pageOf_ok_iff {record : Value} : (∃ page, pageOf record = .ok page) ↔ Usable record := by
  constructor
  · rintro ⟨page, h⟩
    obtain ⟨hrecord, hkey⟩ := ofRecord_of_pageOf h
    obtain ⟨fields, hfields, hrecord⟩ := Outcome.bind_eq_ok.mp hrecord
    obtain ⟨url, hurl, hrecord⟩ := Outcome.bind_eq_ok.mp hrecord
    obtain ⟨flat, hflat, hrecord⟩ := Outcome.bind_eq_ok.mp hrecord
    cases hrecord
    exact ⟨fields, url, fieldsOf_eq_ok.mp hfields, urlOf_eq_ok.mp hurl, hkey,
      Snippet.flatten_ok_iff.mp ⟨flat, hflat⟩⟩
  · rintro ⟨fields, url, rfl, hurl, hkey, hsnippet⟩
    obtain ⟨flat, hflat⟩ := Snippet.flatten_ok_iff.mpr hsnippet
    have hrecord : ∃ page, Webpage.ofRecord (.object fields) = .ok page ∧ page.url = url :=
      ⟨_, Outcome.bind_eq_ok.mpr ⟨fields, rfl, Outcome.bind_eq_ok.mpr
        ⟨url, urlOf_eq_ok.mpr hurl, Outcome.bind_eq_ok.mpr ⟨flat, hflat, rfl⟩⟩⟩, rfl⟩
    obtain ⟨page, hrecord, rfl⟩ := hrecord
    exact ⟨page, Outcome.bind_eq_ok.mpr ⟨page, hrecord, if_pos hkey⟩⟩

/-- Results can be built exactly if all records are usable, repeated addresses included. -/
theorem buildFrom_ok_iff {qid : Name} {seen : List Value} {rank : Nat} {records : List Value} :
    (∃ results, buildFrom qid seen rank records = .ok results) ↔
      ∀ record ∈ records, Usable record := by
  induction records generalizing seen rank with
  | nil => exact iff_of_true ⟨[], rfl⟩ fun record hm => nomatch hm
  | cons record rest ih =>
    rw [List.forall_mem_cons, ← pageOf_ok_iff]
    constructor
    · rintro ⟨results, h⟩
      obtain ⟨page, hpage, ⟨-, h⟩ | ⟨-, later, hlater, -⟩⟩ := buildFrom_cons_eq_ok.mp h
      · exact ⟨⟨page, hpage⟩, ih.mp ⟨results, h⟩⟩
      · exact ⟨⟨page, hpage⟩, ih.mp ⟨later, hlater⟩⟩
    · rintro ⟨⟨page, hpage⟩, hrest⟩
      cases hseen : seen.any (sameAddress page.url) with
      | true =>
        obtain ⟨results, hresults⟩ := ih.mpr hrest
        exact ⟨results, buildFrom_cons_eq_ok.mpr ⟨page, hpage, .inl ⟨hseen, hresults⟩⟩⟩
      | false =>
        obtain ⟨later, hlater⟩ := ih.mpr hrest
        exact ⟨_, buildFrom_cons_eq_ok.mpr
          ⟨page, hpage, .inr ⟨hseen, later, hlater, rfl⟩⟩⟩

/-- Whether the address of a record has surrogates that stand alone. -/
def HasUnpairedAddress (record : Value) : Prop :=
  ∃ fields u, record = .object fields ∧ Fields.get? fields "url" = some (.unpaired u)

/-- Only an address of the same kind counts as one with surrogates that stand alone. -/
theorem unpaired_of_sameAddress {u : Unpaired} {other : Value}
    (h : sameAddress (.unpaired u) other = true) : other = .unpaired u := by
  rcases Bool.or_eq_true_iff.mp h with h | h
  · exact (beq_iff_eq.mp h).symm
  · cases other with
    | unpaired v =>
      simp only [Value.agree, beq_iff_eq] at h
      rw [h]
    | _ => simp only [Value.agree, Bool.false_eq_true] at h

/-- An address with surrogates that stand alone was seen before, or one of the results has it. -/
theorem seen_or_mem_of_unpaired {qid : Name} {seen : List Value} {rank : Nat}
    {records : List Value} {results : List SearchResult}
    (h : buildFrom qid seen rank records = .ok results) {record : Value} (hm : record ∈ records)
    (unpaired : HasUnpairedAddress record) :
    ∃ u, .unpaired u ∈ seen ∨ ∃ result ∈ results, result.webpage.url = .unpaired u := by
  obtain ⟨fields, u, rfl, hurl⟩ := unpaired
  refine ⟨u, ?_⟩
  induction records generalizing seen rank results with
  | nil => cases hm
  | cons first rest ih =>
    obtain ⟨page, hpage, hbuilt⟩ := buildFrom_cons_eq_ok.mp h
    rcases List.mem_cons.mp hm with rfl | hrest
    · have haddress : page.url = .unpaired u := by
        obtain ⟨others, hrecord, hpageUrl⟩ := url_of_ofRecord (ofRecord_of_pageOf hpage).1
        cases hrecord
        exact Option.some.inj (hpageUrl.symm.trans hurl)
      rcases hbuilt with ⟨hseen, -⟩ | ⟨-, later, -, rfl⟩
      · rw [haddress] at hseen
        obtain ⟨other, hother, hsame⟩ := List.any_eq_true.mp hseen
        exact .inl (unpaired_of_sameAddress hsame ▸ hother)
      · exact .inr ⟨_, List.mem_cons_self, haddress⟩
    · rcases hbuilt with ⟨-, hlater⟩ | ⟨-, later, hlater, rfl⟩
      · exact ih hlater hrest
      · rcases ih hlater hrest with hseen | ⟨result, hresult, haddress⟩
        · rcases List.mem_cons.mp hseen with heq | hseen
          · exact .inr ⟨_, List.mem_cons_self, heq.symm⟩
          · exact .inl hseen
        · exact .inr ⟨result, List.mem_cons_of_mem _ hresult, haddress⟩

/-- Results built under a text all have texts for their ids exactly if no record has an address with
surrogates that stand alone. -/
theorem all_hasTextId_iff {qid : String} {records : List Value} {results : List SearchResult}
    (h : build qid records = .ok results) :
    results.all hasTextId = true ↔ ∀ record ∈ records, ¬HasUnpairedAddress record := by
  rw [List.all_eq_true]
  constructor
  · intro texts record hm unpaired
    obtain ⟨u, hseen | ⟨result, hresult, haddress⟩⟩ := seen_or_mem_of_unpaired h hm unpaired
    · cases hseen
    · have hpaired := (isBuilt_of_mem_buildFrom h hresult).hasTextId_iff.mp (texts result hresult)
      exact hpaired u haddress
  · intro paired result hm
    have hbuilt := isBuilt_of_mem_buildFrom h hm
    refine hbuilt.hasTextId_iff.mpr fun u haddress => ?_
    obtain ⟨record, hrecord, hpage⟩ := hbuilt.page_of
    obtain ⟨fields, hobject, hpageUrl⟩ := url_of_ofRecord hpage
    exact paired record hrecord ⟨fields, u, hobject, haddress ▸ hpageUrl⟩

end SearchResult

end SearchAnnotation
