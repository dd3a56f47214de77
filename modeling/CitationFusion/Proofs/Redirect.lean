import CitationFusion.Proofs.Answer
import CitationFusion.Proofs.Identifiers
import CitationFusion.Proofs.Percent

/-!
# From a DOI to its record

A DOI is redirected to the record that stands for it, whatever the identifier of that is made of:
the location is routed to the record, and its escapes are read as the identifier.

* `ofPath_record`, `ofPath_doi` : where a path of a record and of a DOI leads.
* `toRecord_eq` : the location of a record can be sent.
* `Leads`, `recordPath_leads` : a location leads to one record.
* `resolveDoi_stored` : what the stores in memory answer for a DOI.
* `serve_redirects` : what is answered for a DOI, and where that leads.
-/

namespace CitationFusion.Http

open Plan Percent

/-! ## 1. Paths -/

/-- The octets of a DOI that stand for themselves in a path. -/
def plainInDoi (b : UInt8) : Bool := isUnreserved b || b == 0x2F

/-- The path of a target is all of it where no query and no fragment begins. -/
theorem pathOf_append {start rest : List Char} (absolute : start.head? = some '/')
    (hstart : start.all (fun c => c != '?' && c != '#') = true) (hquery : '?' ∉ rest)
    (hfragment : '#' ∉ rest) :
    pathOf (start ++ rest) = start ++ rest := by
  obtain ⟨start, rfl⟩ := List.head?_eq_some_iff.1 absolute
  refine List.takeWhile_eq_self_iff.2 fun c hc => ?_
  have hplain : c ≠ '?' ∧ c ≠ '#' := by
    rcases List.mem_append.1 hc with hc | hc
    · simpa using List.all_eq_true.1 hstart c hc
    · exact ⟨fun h => hquery (h ▸ hc), fun h => hfragment (h ▸ hc)⟩
  simpa using hplain

theorem behind_append (start rest : List Char) : behind start (start ++ rest) = some rest := by
  rw [behind, if_pos (List.isPrefixOf_iff_prefix.2 (List.prefix_append _ _)), List.drop_left]

/-- The paths of the resources that are neither a record nor a DOI. -/
def fixedPaths : List String := ["/", "/health", "/info", "/cache/size", "/cache"]

theorem ne_fixedPaths {start : String} (h : start = "/id/" ∨ start = "/doi/") (rest : List Char) :
    ∀ other ∈ fixedPaths, start.toList ++ rest ≠ other.toList := by
  have hid : "/id/".toList = ['/', 'i', 'd', '/'] := rfl
  have hdoi : "/doi/".toList = ['/', 'd', 'o', 'i', '/'] := rfl
  rcases h with rfl | rfl
  · simp [fixedPaths, hid]
  · simp [fixedPaths, hdoi]

/-- **One segment leads to a record.** -/
theorem ofPath_record {segment : List Char} (hne : segment ≠ []) (hslash : '/' ∉ segment) :
    Route.ofPath ("/id/".toList ++ segment) = some (.record segment) := by
  have hempty : segment.isEmpty = false := by simpa using hne
  have hcontains : segment.contains '/' = false := by simpa using hslash
  have hother := ne_fixedPaths (.inl rfl) segment
  simp only [fixedPaths, List.forall_mem_cons] at hother
  obtain ⟨h1, h2, h3, h4, h5, -⟩ := hother
  unfold Route.ofPath
  rw [if_neg h1, if_neg h2, if_neg h3, if_neg h4, if_neg h5, behind_append]
  simp only [hempty, hcontains, Bool.or_false, Bool.false_eq_true, if_false]

/-- **Any text leads to a DOI.** -/
theorem ofPath_doi {path : List Char} (hne : path ≠ []) :
    Route.ofPath ("/doi/".toList ++ path) = some (.doi path) := by
  have hempty : path.isEmpty = false := by simpa using hne
  have hrecord : behind "/id/".toList ("/doi/".toList ++ path) = none := rfl
  have hother := ne_fixedPaths (.inr rfl) path
  simp only [fixedPaths, List.forall_mem_cons] at hother
  obtain ⟨h1, h2, h3, h4, h5, -⟩ := hother
  unfold Route.ofPath
  rw [if_neg h1, if_neg h2, if_neg h3, if_neg h4, if_neg h5, hrecord, behind_append]
  simp only [hempty, Bool.false_eq_true, if_false]

/-- **What a text is escaped to is read as it.** -/
theorem unescape?_eq {keep : UInt8 → Bool} {t part : String} (sign : keep 0x25 = false)
    (h : Writes keep (Utf8.ofString t) (Utf8.ofString part)) : unescape? part.toList = some t := by
  show Utf8.text? (Percent.decode (Utf8.ofString part)) = some t
  rw [h.decode sign, Utf8.text?_ofString]

/-- A character of ASCII does not stand in what is written if it needs an escape. -/
theorem not_mem_of_writes {keep : UInt8 → Bool} {bs : Bytes} {part : String} {c : Char}
    (h : Writes keep bs (Utf8.ofString part)) (hc : c.toNat < 0x80)
    (hkeep : keep (UInt8.ofNat c.toNat) = false) (hsign : UInt8.ofNat c.toNat ≠ 0x25)
    (hunreserved : isUnreserved (UInt8.ofNat c.toNat) = false) : c ∉ part.toList := by
  intro hmem
  rcases h.mem (Utf8.mem_ofString hc hmem) with hkept | hsign' | hdigit
  · rw [hkeep] at hkept
    cases hkept
  · exact hsign hsign'
  · rw [unreserved_of_hexValue hdigit] at hunreserved
    cases hunreserved

/-- Something is written as some text. -/
theorem toList_ne_nil_of_writes {keep : UInt8 → Bool} {t part : String} (hne : t ≠ "")
    (h : Writes keep (Utf8.ofString t) (Utf8.ofString part)) : part.toList ≠ [] := by
  intro hnil
  refine h.ne_nil (fun hempty => hne ?_) (by rw [Utf8.ofString, hnil]; rfl)
  have htext := Utf8.text?_ofString t
  rw [hempty, show ([] : Bytes) = Utf8.ofString "" from rfl, Utf8.text?_ofString] at htext
  exact (Option.some.inj htext).symm

/-! ## 2. Locations -/

/-- Whether a location leads to one record: it is `/id/` and one escaped segment, and whoever asks
    for it, of whatever service, asks for the record. -/
structure Leads (location id : String) : Prop where
  segment : ∃ segment, location = "/id/" ++ segment ∧
    Writes isUnreserved (Utf8.ofString id) (Utf8.ofString segment) ∧
    Route.ofPath (pathOf location.toList) = some (.record segment.toList) ∧
    unescape? segment.toList = some id
  served : ∀ {σ : Type} (x : Executor σ) (S : Session σ),
    serve x ⟨"GET", location⟩ S =
      settle ofResolution (S.resolve x id).1 (S.resolve x id).2.1 (S.resolve x id).2.2

/-- Whoever asks for a resource is served it. -/
theorem serve_get {σ : Type} {x : Executor σ} {S : Session σ} {target : String} {route : Route}
    (hroute : Route.ofPath (pathOf target.toList) = some route)
    (hmethod : route.methods.contains "GET" = true) :
    serve x ⟨"GET", target⟩ S = route.serve x S := by
  have hhead : ("GET" == "HEAD") = false := rfl
  unfold serve
  simp only [hroute, hmethod, hhead, if_true, Bool.false_eq_true, if_false]

/-- The location of a record ends with one escaped segment. -/
theorem exists_recordPath (id : String) : ∃ segment, recordPath id = "/id/" ++ segment ∧
    Writes isUnreserved (Utf8.ofString id) (Utf8.ofString segment) := by
  have hascii : ∀ b ∈ encode isUnreserved (Utf8.ofString id), b.toNat < 0x80 := by
    intro b hb
    rcases (encode_writes _ _).unreserved hb with hkept | rfl
    · exact unreserved_ascii hkept
    · decide
  obtain ⟨segment, hsegment⟩ := Utf8.exists_ofString hascii
  refine ⟨segment, ?_, ?_⟩
  · rw [recordPath, ← hsegment, Utf8.text?_ofString]
    rfl
  · rw [hsegment]
    exact encode_writes _ _

/-- **The location of a record can always be sent**: a header may hold all of it. -/
theorem toRecord_eq (id : String) : toRecord id = .redirect (recordPath id) := by
  obtain ⟨segment, hlocation, hwrites⟩ := exists_recordPath id
  have hvalue : headerValue? (recordPath id) = some (recordPath id) := by
    refine if_pos (List.all_eq_true.2 fun b hb => ?_)
    rw [hlocation, Utf8.ofString_append] at hb
    have hplain : 0x20 ≤ b.toNat ∧ b.toNat ≠ 0x7F := by
      rcases List.mem_append.1 hb with hb | hb
      · have hstart : b ∈ [0x2F, 0x69, 0x64, 0x2F] := hb
        simp only [List.mem_cons, List.not_mem_nil, or_false] at hstart
        rcases hstart with rfl | rfl | rfl | rfl <;> decide
      · rcases hwrites.unreserved hb with hkept | rfl
        · have := isUnreserved_iff.1 hkept
          omega
        · decide
    simp [hplain]
  rw [toRecord, hvalue]

/-- **A record is led to by its location**, whatever its identifier is made of. -/
theorem recordPath_leads {id : String} (hne : id ≠ "") : Leads (recordPath id) id := by
  obtain ⟨segment, hlocation, hwrites⟩ := exists_recordPath id
  have unwritten : ∀ c : Char, c.toNat < 0x80 → isUnreserved (UInt8.ofNat c.toNat) = false →
      UInt8.ofNat c.toNat ≠ 0x25 → c ∉ segment.toList :=
    fun c hc hkeep hsign => not_mem_of_writes hwrites hc hkeep hsign hkeep
  have hpath : pathOf ("/id/" ++ segment).toList = "/id/".toList ++ segment.toList := by
    rw [String.toList_append]
    exact pathOf_append rfl rfl (unwritten '?' (by decide) (by decide) (by decide))
      (unwritten '#' (by decide) (by decide) (by decide))
  have hroute : Route.ofPath (pathOf (recordPath id).toList) = some (.record segment.toList) := by
    rw [hlocation, hpath]
    exact ofPath_record (toList_ne_nil_of_writes hne hwrites)
      (unwritten '/' (by decide) (by decide) (by decide))
  have hunescaped : unescape? segment.toList = some id := unescape?_eq (by decide) hwrites
  refine ⟨⟨segment, hlocation, hwrites, hroute, hunescaped⟩, fun x S => ?_⟩
  rw [serve_get hroute rfl]
  simp only [Route.serve, serveRecord, hunescaped]

/-! ## 3. The stores -/

open Memory

variable {S : Session Stores} {s : Stores} {f : Fetcher Leaf} {records : List Mapping}
  {doi path id : String}

/-- **The store of identifiers answers for a DOI**, if it is not slower than a request may be. -/
theorem resolveDoi_stored
    (quick : S.world.identifiers.trouble.delay.nanos ≤ S.service.settings.requestTimeout.nanos) :
    let out := S.resolveDoi (executor s f) doi
    out.1 = .answered (S.world.identifiers.idForDoi doi) ∧
      out.2.world.identifiers =
        { S.world.identifiers with pointCalls := S.world.identifiers.pointCalls + 1 } := by
  intro out
  have harrival : ∃ now, arrival (some S.deadline) S.scene.now
      (world.respond S.scene.world (.idForDoi doi)).2.takes = some now := by
    show ∃ now, arrival (some S.deadline) S.now (some S.world.identifiers.trouble.delay) = some now
    unfold arrival
    simp only
    split
    · exact ⟨_, rfl⟩
    · exact ⟨_, if_pos (Nat.add_le_add_left quick _)⟩
  obtain ⟨now, hnow⟩ := harrival
  have hplan : (CitationFusion.resolveDoi doi).refine (f.expand (Leaf.abilities s)) =
      .call (.idForDoi doi) .done := rfl
  have hrun : (executor s f).run (some S.deadline) (CitationFusion.resolveDoi doi) S.scene =
      (.finished (S.world.identifiers.idForDoi doi),
        { S.scene with now := now, world := (S.world.respond (.idForDoi doi)).1 }) := by
    show Plan.run world (some S.deadline) _ S.scene = _
    rw [hplan, run_call, hnow]
    rfl
  simp only [out, Session.resolveDoi, hrun]
  exact ⟨rfl, rfl⟩

/-! ## 4. Requests -/

/-- **A DOI is redirected to the record that stands for it**, if any record carries it. The location
    leads to that record, which answers the DOI. -/
theorem serve_redirects (named : ∀ m ∈ records, m.id ≠ "")
    (distinct : (records.map Mapping.id).Nodup) (filled : Filled S.world.identifiers records)
    (available : S.world.identifiers.trouble.unavailable = false)
    (quick : S.world.identifiers.trouble.delay.nanos ≤ S.service.settings.requestTimeout.nanos)
    (nonempty : doi ≠ "")
    (written : Writes plainInDoi (Utf8.ofString doi) (Utf8.ofString path)) :
    let out := serve (executor s f) ⟨"GET", "/doi/" ++ path⟩ S
    ∃ answer, out.1 = some answer ∧
      ((∃ m ∈ records, m.doi = doi) → answer.status = 307 ∧
        ∃ location id, answer.headers.location = some location ∧ Leads location id ∧
          Standing records doi id ∧ out.2.1.world.identifiers.doiForId id = .ok doi) ∧
      ((∀ m ∈ records, m.doi ≠ doi) → answer.status = 404 ∧
        Json.readDocument (pairShape "error_code" "message").read answer.body =
          .ok ("not_found", "No id for DOI " ++ Text.quote doi ++ ".")) := by
  intro out
  have hpath : pathOf ("/doi/" ++ path).toList = "/doi/".toList ++ path.toList := by
    rw [String.toList_append]
    exact pathOf_append rfl rfl
      (not_mem_of_writes written (by decide) (by decide) (by decide) (by decide))
      (not_mem_of_writes written (by decide) (by decide) (by decide) (by decide))
  have hroute : Route.ofPath (pathOf ("/doi/" ++ path).toList) = some (.doi path.toList) := by
    rw [hpath]
    exact ofPath_doi (toList_ne_nil_of_writes nonempty written)
  have hunescaped : unescape? path.toList = some doi := unescape?_eq (by decide) written
  obtain ⟨hanswer, hafter⟩ := @resolveDoi_stored S s f doi quick
  -- the request comes down to what the store of identifiers answers
  have hserve : out = settle toRecord
      (.answered (S.world.identifiers.idForDoi doi)) (S.resolveDoi (executor s f) doi).2 [] := by
    rw [← hanswer]
    show serve _ _ _ = _
    rw [serve_get hroute rfl]
    simp only [Route.serve, serveDoi, hunescaped]
  rw [hserve]
  by_cases carried : ∃ m ∈ records, m.doi = doi
  · obtain ⟨id, hid, standing⟩ := filled.idForDoi_standing available carried
    rw [hid]
    have back : (S.resolveDoi (executor s f) doi).2.world.identifiers.doiForId id = .ok doi := by
      rw [hafter]
      exact Filled.doiForId_of_mem filled available distinct standing.carries
    refine ⟨.redirect (recordPath id), congrArg some (toRecord_eq id),
      fun _ => ⟨rfl, recordPath id, id, rfl, ?_, standing, back⟩, fun none => ?_⟩
    · exact recordPath_leads (named _ standing.carries)
    · exact absurd rfl (none _ standing.carries)
  · have uncarried : ∀ m ∈ records, m.doi ≠ doi := fun m hm h => carried ⟨m, hm, h⟩
    rw [filled.idForDoi_none available uncarried]
    refine ⟨_, rfl, fun h => absurd h carried, fun _ => ⟨rfl, ?_⟩⟩
    exact (written_failureBody _ _).readDocument_eq

/-- Two records of one DOI that is no ASCII, one of them with a slash, a percent sign and a question
    mark in its identifier. -/
theorem serve_redirects_shared :
    let records : List Mapping := [⟨"b", "é/1"⟩, ⟨"a/%?", "é/1"⟩, ⟨"c", "d"⟩]
    let identifiers := records.foldl Identifiers.insert (Stores.start []).identifiers
    let S : Session Stores :=
      .start ⟨.standard, true, ⟨true, true⟩⟩ ⟨0⟩ { Stores.start [] with identifiers }
    let out := serve (executor S.world (.group [])) ⟨"GET", "/doi/%C3%a9/1"⟩ S
    ∃ answer location id, out.1 = some answer ∧ answer.status = 307 ∧
      answer.headers.location = some location ∧ Leads location id ∧ Standing records "é/1" id ∧
      out.2.1.world.identifiers.doiForId id = .ok "é/1" := by
  intro records identifiers S out
  have written : Writes plainInDoi (Utf8.ofString "é/1") (Utf8.ofString "%C3%a9/1") := by
    have hdoi : Utf8.ofString "é/1" = [0xC3, 0xA9, 0x2F, 0x31] := by decide +kernel
    have hpath : Utf8.ofString "%C3%a9/1" =
        [0x25, 0x43, 0x33, 0x25, 0x61, 0x39, 0x2F, 0x31] := by decide +kernel
    rw [hdoi, hpath]
    exact .escaped rfl rfl rfl (.escaped rfl rfl rfl (.raw rfl (.raw rfl .nil)))
  have carried : ∃ m ∈ records, m.doi = "é/1" := ⟨_, List.mem_cons_self, rfl⟩
  obtain ⟨answer, hanswer, hredirect, -⟩ :=
    @serve_redirects S S.world (.group []) records "é/1" "%C3%a9/1" (by decide) (by decide) rfl rfl
      (by decide) (by decide) written
  obtain ⟨hstatus, location, id, hlocation, hleads, hstanding, hback⟩ := hredirect carried
  exact ⟨answer, location, id, hanswer, hstatus, hlocation, hleads, hstanding, hback⟩

end CitationFusion.Http
