import SearchAnnotation.Proofs.FirstOccurrences
import SearchAnnotation.Proofs.KeyAgreement
import SearchAnnotation.Proofs.RecordShapes

/-!
# The results that records stand for

The results of a list of records are the pages of the records, of which those stay whose addresses
agree with none before them, numbered in their order. They can be built just if every record is
usable, and otherwise the first one that is not tells the fault. The documents of the pages are
records themselves, and the same results are built from them again.
-/

namespace SearchAnnotation

open FirstOccurrences

namespace Snippet

theorem fragmentCodes_eq_error {v : Value} {why : ShapeFault} (h : fragmentCodes v = .error why) :
    why = .wrongKind := by
  unfold fragmentCodes at h
  split at h
  · split at h
    · cases h
    · split at h
      · cases h
      · cases h
        rfl
  · cases h

theorem joinFragments_eq_error {parts : List Value} {why : ShapeFault}
    (h : joinFragments parts = .error why) : why = .wrongKind := by
  induction parts with
  | nil => cases h
  | cons v rest ih =>
    rcases Outcome.bind_eq_error.mp h with h | ⟨head, -, h⟩
    · exact fragmentCodes_eq_error h
    · rcases Outcome.bind_eq_error.mp h with h | ⟨tail, -, h⟩
      · exact ih h
      · cases h

theorem fragments_eq_error {v : Value} {why : ShapeFault} (h : fragments v = .error why) :
    why = .wrongKind := by
  unfold fragments Value.elements at h
  split at h
  · cases h
  · split at h
    · cases h
    · cases h
      rfl

/-- A snippet that cannot be flattened has a part of the wrong kind. -/
theorem flatten_eq_error {snippet : Value} {why : ShapeFault} (h : flatten snippet = .error why) :
    why = .wrongKind := by
  unfold flatten at h
  split at h
  · cases h
  · cases h
  · split at h
    · cases h
    · cases h
    · rcases Outcome.bind_eq_error.mp h with h | ⟨parts, -, h⟩
      · exact fragments_eq_error h
      · rcases Outcome.bind_eq_error.mp h with h | ⟨joined, -, h⟩
        · exact joinFragments_eq_error h
        · cases h
    · cases h
  · cases h

theorem isString_ofCodes (codes : List Nat) : (Value.ofCodes codes).isString = true := by
  unfold Value.ofCodes
  cases Name.ofCodes codes <;> rfl

/-- A flat snippet is a string or null. -/
theorem isString_or_null_of_flatten {snippet flat : Value} (h : flatten snippet = .ok flat) :
    flat.isString = true ∨ flat = .null := by
  unfold flatten at h
  split at h
  · cases h
    exact .inl rfl
  · cases h
    exact .inl rfl
  · split at h
    · cases h
      exact .inl rfl
    · cases h
      exact .inl rfl
    · obtain ⟨parts, -, h⟩ := Outcome.bind_eq_ok.mp h
      obtain ⟨joined, -, h⟩ := Outcome.bind_eq_ok.mp h
      cases h
      exact .inl (isString_ofCodes joined)
    · cases h
      exact .inr rfl
  · cases h
    exact .inr rfl

/-- A flat snippet stays as it is when it is flattened again. -/
theorem flatten_of_flatten {snippet flat : Value} (h : flatten snippet = .ok flat) :
    flatten flat = .ok flat := by
  rcases isString_or_null_of_flatten h with hs | rfl
  · cases flat with
    | text s => rfl
    | unpaired codes => rfl
    | _ => cases hs
  · rfl

end Snippet

namespace Webpage

/-- The page of a record is made again from its own document. -/
theorem ofRecord_toDocument {record : Value} {page : Webpage} (h : ofRecord record = .ok page) :
    ofRecord page.toDocument = .ok page := by
  have htitle := title_of_ofRecord h
  obtain ⟨fields, -, h⟩ := Outcome.bind_eq_ok.mp h
  obtain ⟨url, -, h⟩ := Outcome.bind_eq_ok.mp h
  obtain ⟨flat, hflat, h⟩ := Outcome.bind_eq_ok.mp h
  cases h
  refine Outcome.bind_eq_ok.mpr ⟨_, rfl, Outcome.bind_eq_ok.mpr ⟨url, rfl,
    Outcome.bind_eq_ok.mpr ⟨flat, Snippet.flatten_of_flatten hflat, ?_⟩⟩⟩
  exact congrArg (fun title => Except.ok { title, .. : Webpage }) htitle

end Webpage

namespace SearchResult

variable {qid : Name} {record : Value} {records : List Value} {results : List SearchResult}
  {pages : List Webpage} {why : ShapeFault}

/-- What a record that is not usable is refused for. -/
def faultOf : Value → ShapeFault
  | .object fields => if (Fields.get? fields "url").isNone then .missing "url" else .wrongKind
  | _ => .wrongKind

theorem faultOf_of_ofRecord (h : Webpage.ofRecord record = .error why) : why = faultOf record := by
  cases record with
  | object fields =>
    rcases Outcome.bind_eq_error.mp h with h | ⟨fields', hfields, h⟩
    · cases h
    · cases hfields
      rw [faultOf]
      rcases Outcome.bind_eq_error.mp h with h | ⟨url, hurl, h⟩
      · unfold Webpage.urlOf at h
        split at h
        · cases h
        · next hnone =>
          cases h
          rw [hnone, Option.isNone_none, if_pos rfl]
      · rw [urlOf_eq_ok.mp hurl, Option.isNone_some, if_neg Bool.false_ne_true]
        rcases Outcome.bind_eq_error.mp h with h | ⟨flat, -, h⟩
        · exact Snippet.flatten_eq_error h
        · cases h
  | _ =>
    rcases Outcome.bind_eq_error.mp h with h | ⟨fields', hfields, -⟩
    · cases h
      rfl
    · cases hfields

theorem faultOf_of_pageOf (h : pageOf record = .error why) : why = faultOf record := by
  rcases Outcome.bind_eq_error.mp h with h | ⟨page, hpage, h⟩
  · exact faultOf_of_ofRecord h
  · split at h
    · cases h
    · cases h
      obtain ⟨fields, rfl, hurl⟩ := url_of_ofRecord hpage
      rw [faultOf, hurl, Option.isNone_some, if_neg Bool.false_ne_true]

/-- A record is refused just if it is not usable, and for its own fault. -/
theorem pageOf_eq_error_iff :
    pageOf record = .error why ↔ ¬Usable record ∧ why = faultOf record := by
  constructor
  · intro h
    refine ⟨fun husable => ?_, faultOf_of_pageOf h⟩
    obtain ⟨page, hpage⟩ := pageOf_ok_iff.mpr husable
    rw [hpage] at h
    cases h
  · rintro ⟨hnot, rfl⟩
    cases hpage : pageOf record with
    | ok page => exact absurd (pageOf_ok_iff.mp ⟨page, hpage⟩) hnot
    | error fault => rw [faultOf_of_pageOf hpage]

/-- The result of a page at a rank. -/
def numbered (qid : Name) (rank : Nat) (page : Webpage) : SearchResult :=
  ⟨resultId qid page.url, rank, none, page⟩

/-- The results that pages stand for: of the pages, those whose addresses agree with none before
them, numbered in their order. -/
def reference (qid : Name) (pages : List Webpage) : List SearchResult :=
  (firsts (fun a b => a.url.agree b.url) pages).mapIdx (numbered qid)

/-- The canonical form of a page's address. -/
def addressKey (page : Webpage) : Value := page.url.canonical

/-- An address was seen before just if its canonical form was. -/
theorem any_sameAddress {seen : List Value} {page : Webpage}
    (keys : ∀ url ∈ seen, url.isKey = true) (key : page.url.isKey = true) :
    seen.any (sameAddress page.url) = (seen.map Value.canonical).contains (addressKey page) := by
  rw [Bool.eq_iff_iff, List.any_eq_true, List.contains_iff_mem, List.mem_map]
  refine exists_congr fun url => and_congr_right fun hm => ?_
  rw [sameAddress_eq key (keys url hm), beq_iff_eq, addressKey, eq_comm]

/-- Building makes the pages of all records first, and then numbers those whose addresses it has
not seen. -/
theorem buildFrom_eq {seen : List Value} (keys : ∀ url ∈ seen, url.isKey = true) (rank : Nat) :
    buildFrom qid seen rank records = (records.mapM pageOf).map fun pages =>
      (scan addressKey (seen.map Value.canonical) pages).mapIdx
        fun i => numbered qid (rank + i) := by
  induction records generalizing seen rank with
  | nil => rfl
  | cons record rest ih =>
    rw [buildFrom, List.mapM_cons]
    cases hpage : pageOf record with
    | error why => rfl
    | ok page =>
      have hkey := (ofRecord_of_pageOf hpage).2
      have hsame := any_sameAddress keys hkey
      rw [Outcome.ok_bind, Outcome.ok_bind]
      by_cases hs : seen.any (sameAddress page.url) = true
      · rw [if_pos hs, ih keys]
        cases rest.mapM pageOf with
        | error why => rfl
        | ok later =>
          rw [Outcome.ok_bind]
          simp only [Except.map, pure, Except.pure, scan, hsame ▸ hs, if_true]
      · have hseen : ∀ url ∈ page.url :: seen, url.isKey = true :=
          List.forall_mem_cons.mpr ⟨hkey, keys⟩
        have hnew : ¬(seen.map Value.canonical).contains (addressKey page) = true := hsame ▸ hs
        rw [if_neg hs, ih hseen]
        cases rest.mapM pageOf with
        | error why => rfl
        | ok later =>
          have hnext : (fun i => numbered qid (rank + 1 + i)) =
              fun i => numbered qid (rank + (i + 1)) :=
            funext fun i => by rw [Nat.add_assoc, Nat.add_comm 1 i]
          simp only [Except.map, Outcome.ok_bind, pure, Except.pure, scan, if_neg hnew,
            List.mapIdx_cons, List.map_cons, Except.ok.injEq, hnext]
          rfl

/-- Building numbers the first pages of all addresses. -/
theorem build_eq (qid : Name) (records : List Value) :
    build qid records = (records.mapM pageOf).map fun pages =>
      (firsts (fun a b => addressKey a == addressKey b) pages).mapIdx (numbered qid) := by
  have hnone : ∀ url ∈ ([] : List Value), url.isKey = true := fun _ h => nomatch h
  rw [build, buildFrom_eq hnone]
  simp only [List.map_nil, scan_nil, Nat.zero_add]

theorem build_eq_error_iff : build qid records = .error why ↔ records.mapM pageOf = .error why := by
  rw [build_eq]
  cases records.mapM pageOf with
  | error fault => simp only [Except.map, Except.error.injEq]
  | ok pages => exact iff_of_false nofun nofun

theorem build_eq_ok_iff : build qid records = .ok results ↔
    ∃ pages, records.mapM pageOf = .ok pages ∧
    results =
      (firsts (fun a b => addressKey a == addressKey b) pages).mapIdx (numbered qid) := by
  rw [build_eq]
  cases records.mapM pageOf with
  | error fault => exact iff_of_false nofun fun ⟨_, h, _⟩ => nomatch h
  | ok pages =>
    constructor
    · intro h
      exact ⟨pages, rfl, (Except.ok.inj h).symm⟩
    · rintro ⟨_, ⟨⟩, rfl⟩
      rfl

/-- Whether a record has an undefined number for its address. -/
def hasUndefinedAddress : Value → Bool
  | .object fields => (Fields.get? fields "url").any Value.isUndefined
  | _ => false

/-- What building results does, compared with the results that the records stand for. -/
structure BuildsReference (qid : Name) (records : List Value) : Prop where
  /-- It returns just if all records are usable. -/
  returns : (∃ results, build qid records = .ok results) ↔ ∀ record ∈ records, Usable record
  /-- Otherwise it fails with the fault of the first record that is not. -/
  faults : ∀ why, build qid records = .error why ↔ ∃ front bad back,
    records = front ++ bad :: back ∧ (∀ record ∈ front, Usable record) ∧ ¬Usable bad ∧
      why = faultOf bad
  /-- What it returns are the results that the pages of the records stand for. -/
  results_eq : ∀ results, build qid records = .ok results → ∃ pages : List Webpage,
    records.mapM Webpage.ofRecord = .ok pages ∧ results = reference qid pages ∧
      ∀ page ∈ pages, ∃! i : Nat, ∃ result, results[i]? = some result ∧
        page.url.agree result.webpage.url = true
  /-- It returns the same again from the documents of the pages. -/
  rebuilt : ∀ results, build qid records = .ok results →
    build qid (results.map fun result => result.webpage.toDocument) = .ok results

/-- A page that may be a result is the page of its record. -/
theorem mapM_ofRecord (h : records.mapM pageOf = .ok pages) :
    records.mapM Webpage.ofRecord = .ok pages := by
  induction records generalizing pages with
  | nil => exact h
  | cons record rest ih =>
    rw [List.mapM_cons] at h
    obtain ⟨page, hpage, h⟩ := Outcome.bind_eq_ok.mp h
    obtain ⟨later, hlater, h⟩ := Outcome.bind_eq_ok.mp h
    cases h
    rw [List.mapM_cons, (ofRecord_of_pageOf hpage).1, ih hlater]
    rfl

/-- The address of a page that was made from a record can be a key, and it is an undefined number
only if the record's is. -/
theorem url_of_mem_pages (h : records.mapM pageOf = .ok pages)
    (defined : ∀ record ∈ records, hasUndefinedAddress record = false) {page : Webpage}
    (hm : page ∈ pages) : page.url.isKey = true ∧ page.url.isUndefined = false := by
  obtain ⟨record, hrecord, hpage⟩ := Outcome.exists_of_mem_mapM h hm
  obtain ⟨hof, hkey⟩ := ofRecord_of_pageOf hpage
  obtain ⟨fields, hfields, hurl⟩ := url_of_ofRecord hof
  have hdefined := defined record hrecord
  rw [hfields, hasUndefinedAddress, hurl, Option.any_some] at hdefined
  exact ⟨hkey, hdefined⟩

/-- Addresses that are defined agree just if they have one canonical form. -/
theorem agree_eq_addressKey {a b : Webpage} (ha : a.url.isKey = true) (hb : b.url.isKey = true)
    (defined : a.url.isUndefined = false) :
    a.url.agree b.url = (addressKey a == addressKey b) :=
  (sameAddress_eq_agree ha hb defined).symm.trans (sameAddress_eq ha hb)

/-- The pages with addresses that agree with none before are those with new canonical forms. -/
theorem firsts_agree (h : records.mapM pageOf = .ok pages)
    (defined : ∀ record ∈ records, hasUndefinedAddress record = false) :
    firsts (fun a b : Webpage => a.url.agree b.url) pages =
      firsts (fun a b => addressKey a == addressKey b) pages := by
  refine firsts_congr fun a ha b hb => ?_
  obtain ⟨hkey, hdefined⟩ := url_of_mem_pages h defined ha
  exact agree_eq_addressKey hkey (url_of_mem_pages h defined hb).1 hdefined

/-- Built results are the results that the pages of their records stand for. -/
theorem build_eq_reference (h : records.mapM pageOf = .ok pages)
    (defined : ∀ record ∈ records, hasUndefinedAddress record = false) :
    build qid records = .ok (reference qid pages) :=
  build_eq_ok_iff.mpr ⟨pages, h, by rw [reference, firsts_agree h defined]⟩

/-- The documents of built results have the pages of the results. -/
theorem mapM_pageOf_documents (h : build qid records = .ok results) :
    (results.map fun result => result.webpage.toDocument).mapM pageOf =
      .ok (results.map SearchResult.webpage) := by
  rw [List.mapM_map]
  refine Outcome.mapM_eq_ok fun result hm => ?_
  have hbuilt := isBuilt_of_mem_buildFrom h hm
  obtain ⟨record, -, hpage⟩ := hbuilt.page_of
  exact Outcome.bind_eq_ok.mpr
    ⟨result.webpage, Webpage.ofRecord_toDocument hpage, if_pos hbuilt.key⟩

/-- The results of pages are built again from the pages' documents. -/
theorem build_documents (h : build qid records = .ok results) :
    build qid (results.map fun result => result.webpage.toDocument) = .ok results := by
  obtain ⟨pages, hpages, hresults⟩ := build_eq_ok_iff.mp h
  have hwebpages : results.map SearchResult.webpage =
      firsts (fun a b => addressKey a == addressKey b) pages := by
    refine List.ext_getElem? fun i => ?_
    rw [hresults, List.getElem?_map, List.getElem?_mapIdx, Option.map_map]
    exact congrFun Option.map_id _
  refine build_eq_ok_iff.mpr ⟨_, mapM_pageOf_documents h, ?_⟩
  rw [hwebpages, firsts_eq_self (pairwise_firsts pages), hresults]

/-- Each address is that of the result at just one place. -/
theorem existsUnique_result (h : records.mapM pageOf = .ok pages)
    (defined : ∀ record ∈ records, hasUndefinedAddress record = false) {page : Webpage}
    (hm : page ∈ pages) : ∃! i : Nat, ∃ result, (reference qid pages)[i]? = some result ∧
      page.url.agree result.webpage.url = true := by
  obtain ⟨hkey, hdefined⟩ := url_of_mem_pages h defined hm
  refine (existsUnique_congr fun i => ?_).mp (existsUnique_key_firsts addressKey hm)
  rw [reference, firsts_agree h defined, List.getElem?_mapIdx]
  constructor
  · rintro ⟨first, hfirst, hsame⟩
    refine ⟨numbered qid i first, by rw [hfirst, Option.map_some], ?_⟩
    have hother := mem_of_mem_firsts (List.mem_of_getElem? hfirst)
    rw [numbered, agree_eq_addressKey hkey (url_of_mem_pages h defined hother).1 hdefined, hsame]
    exact beq_self_eq_true _
  · rintro ⟨result, hresult, hagree⟩
    obtain ⟨first, hfirst, rfl⟩ := Option.map_eq_some_iff.mp hresult
    have hother := mem_of_mem_firsts (List.mem_of_getElem? hfirst)
    rw [numbered, agree_eq_addressKey hkey (url_of_mem_pages h defined hother).1 hdefined] at hagree
    exact ⟨first, hfirst, (beq_iff_eq.mp hagree).symm⟩

/-- Building results meets its reference for all records whose addresses are defined. -/
theorem build_meets_reference (qid : Name)
    (defined : ∀ record ∈ records, hasUndefinedAddress record = false) :
    BuildsReference qid records where
  returns := buildFrom_ok_iff
  faults why := by
    rw [build_eq_error_iff, Outcome.mapM_eq_error]
    simp only [pageOf_ok_iff, pageOf_eq_error_iff]
  results_eq results h := by
    obtain ⟨pages, hpages, -⟩ := build_eq_ok_iff.mp h
    have hresults : results = reference qid pages :=
      Except.ok.inj (h.symm.trans (build_eq_reference hpages defined))
    refine ⟨pages, mapM_ofRecord hpages, hresults, fun page hm => ?_⟩
    rw [hresults]
    exact existsUnique_result hpages defined hm
  rebuilt _ h := build_documents h

/-- Records whose addresses are one, one as a binary64 number, true and the text of one. -/
def ones : List Value := [.int 1, .float ⟨false, 1023, 0⟩, .bool true, .text "1"].map soleRecord

/-- A record with the address one and a structured snippet whose only text is no string. -/
def wordlessRecord : Value := .object [(.text "url", .int 1), (.text "snippet", .object
  [(.text "text", .object [(.text "fragments", .list [.object [(.text "text", .int 2)]])])])]

/-- The first three of these records have one address, and the others are dropped. A record with
that address that is not usable is no duplicate to be dropped but the fault of the whole. -/
theorem build_ones_meets_reference :
    (∀ record ∈ ones ++ [wordlessRecord], hasUndefinedAddress record = false) ∧
      (∃ results, build "q" ones = .ok results ∧
        results.map (fun result => (result.origRank, result.webpage.url)) =
          [(0, .int 1), (1, .text "1")]) ∧
      build "q" (ones ++ [wordlessRecord]) = .error .wrongKind := by
  have hdefined : ∀ record ∈ ones ++ [wordlessRecord], hasUndefinedAddress record = false := by
    decide
  have husable : ∀ record ∈ ones, Usable record := by
    intro record hm
    obtain ⟨url, hurl, rfl⟩ := List.mem_map.mp hm
    have hkey : ∀ url ∈ [Value.int 1, .float ⟨false, 1023, 0⟩, .bool true, .text "1"],
        url.isKey = true := by decide
    exact ⟨_, url, rfl, rfl, hkey url hurl, fun _ _ h => nomatch h⟩
  have hones : BuildsReference "q" ones := build_meets_reference "q" fun record hm =>
    hdefined record (List.mem_append_left _ hm)
  refine ⟨hdefined, ?_, ?_⟩
  · obtain ⟨results, hresults⟩ := hones.returns.mpr husable
    obtain ⟨pages, hpages, rfl, -⟩ := hones.results_eq results hresults
    refine ⟨_, hresults, ?_⟩
    cases hpages
    decide
  · have hrefused : pageOf wordlessRecord = .error .wrongKind := rfl
    obtain ⟨hnot, hfault⟩ := pageOf_eq_error_iff.mp hrefused
    exact ((build_meets_reference "q" hdefined).faults _).mpr
      ⟨ones, wordlessRecord, [], rfl, husable, hnot, hfault⟩

end SearchResult

end SearchAnnotation
