import CitationFusion.Http.Route
import CitationFusion.Json.Record
import CitationFusion.Proofs.Fusion
import CitationFusion.Proofs.Presentable

/-!
# What is answered for a record over HTTP

The status of an answer tells what became of the request, and its body is one document, but for a
request that was canceled, which has none.

* `Truthful` : what an answer has to do with what became of the request.
* `truthful_ofFailure`, `truthful_ofResolution` : a failure and a resolution are answered so.
* `serve_truthful` : and so is every request for a record.
-/

namespace CitationFusion.Http

open Plan

/-! ## 1. Bodies -/

/-- How an object is read of which two texts are needed. -/
def pairShape (first second : String) :
    Json.Shape (Option String × Option String) (String × String) where
  name := "Pair"
  slots :=
    [ .required first Prod.fst (fun d v => (some v, d.2)) Json.readText,
      .required second Prod.snd (fun d v => (d.1, some v)) Json.readText ]
  draft := (none, none)
  build := fun d => do
    let a ← Json.required first d.1
    let b ← Json.required second d.2
    return (a, b)

/-- **An object of two texts is read back**, whatever the texts are. -/
theorem written_pair {first second : String} (h : first ≠ second) (a b : String) :
    Json.Written (pairShape first second).read
      (Json.writeObject [Json.writeMember first (Json.writeString a),
        Json.writeMember second (Json.writeString b)]) (a, b) := by
  have hfirst : (pairShape first second).slots.find? (fun slot => slot.name == first) =
      some (.required first Prod.fst (fun d v => (some v, d.2)) Json.readText) :=
    List.find?_cons_of_pos (beq_self_eq_true first)
  have hsecond : (pairShape first second).slots.find? (fun slot => slot.name == second) =
      some (.required second Prod.snd (fun d v => (d.1, some v)) Json.readText) := by
    have hne : ¬ (first == second) = true := fun heq => h (eq_of_beq heq)
    unfold pairShape
    rw [List.find?_cons_of_neg]
    · exact List.find?_cons_of_pos (beq_self_eq_true second)
    · exact hne
  exact Json.Shape.written (d := (some a, some b))
    (.required hfirst rfl (Json.written_string a)
      (.required hsecond rfl (Json.written_string b) (.done _))) rfl

theorem written_failureBody (code message : String) :
    Json.Written (pairShape "error_code" "message").read (failureBody code message)
      (code, message) := written_pair (by decide) code message

theorem written_noRelated (id doi : String) :
    Json.Written (pairShape "doi" "id").read (writeNoRelated id doi) (doi, id) :=
  written_pair (by decide) doi id

/-! ## 2. Answers -/

/-- What a client is told of a failure: of what is not there the message alone, of everything else
    its wording. -/
def told : Failure → String
  | .notFound message => message
  | f => f.text

/-- Whether an answer is the right one for what became of a request for a record. -/
structure Truthful (id : String) (a : Except Failure Resolution) (answer : Answer) : Prop where
  canceled : answer.status = 408 ↔ a = .error .canceled
  empty : answer.status = 408 → answer.body = []
  document : answer.status ≠ 408 → Json.isDocument answer.body = true
  found : answer.status = 200 ↔
    (∃ body, a = .ok (.cached body)) ∨ ∃ r, a = .ok (.resolved r)
  notFound : answer.status = 404 ↔
    (∃ doi, a = .ok (.noRelated id doi)) ∨ ∃ message, a = .error (.notFound message)
  failed : answer.status = 500 ↔
    ∃ f, a = .error f ∧ f ≠ .canceled ∧ ∀ message, f ≠ .notFound message
  body : ∀ r, a = .ok r → answer.body = r.body
  noRelated : ∀ doi, a = .ok (.noRelated id doi) →
    Json.readDocument (pairShape "doi" "id").read answer.body = .ok (doi, id)
  message : ∀ f, a = .error f → f ≠ .canceled → ∃ code,
    Json.readDocument (pairShape "error_code" "message").read answer.body = .ok (code, told f)

/-- **A failure is answered truthfully.** -/
theorem truthful_ofFailure (id : String) (f : Failure) :
    Truthful id (.error f) (ofFailure f).1 := by
  have hread : ∀ code message, Json.readDocument (pairShape "error_code" "message").read
      (failureBody code message) = .ok (code, message) :=
    fun code message => (written_failureBody code message).readDocument_eq
  have hdoc : ∀ code message, Json.isDocument (failureBody code message) = true :=
    fun code message => (written_failureBody code message).one.isDocument
  cases f with
  | canceled => constructor <;> simp [ofFailure, Answer.bare]
  | notFound message => constructor <;> simp [ofFailure, Answer.ofBody, hread, hdoc, told]
  | storage message | indexData message | invariant message | encoding message =>
    constructor <;> simp [ofFailure, Answer.ofBody, hread, hdoc, told]

/-- **A resolution is answered truthfully**, if it can be sent. -/
theorem truthful_ofResolution {id : String} {r : Resolution} (h : Presentable id (.ok r)) :
    Truthful id (.ok r) (ofResolution r) := by
  have hdoc := h.isDocument_body
  cases r with
  | cached body => constructor <;> simp_all [ofResolution, Answer.ofBody]
  | resolved response => constructor <;> simp_all [ofResolution, Answer.ofBody]
  | noRelated id' doi =>
    obtain rfl : id' = id := h
    have hread := (written_noRelated id' doi).readDocument_eq
    constructor <;> simp_all [ofResolution, Answer.ofBody, Resolution.body]

/-! ## 3. Requests -/

variable {σ : Type} {w : World (StoreCall IndexCall) (StoreCall.Answer IndexCall.Answer) σ}
  {drift : Nat → Duration} {S : Session σ} {request : Request} {segment : List Char} {id : String}

/-- **Every request for a record is answered truthfully**, whatever the stores answer, however long
    everything takes and whatever is in the cache, if the clock can express when the answer
    expires. -/
theorem serve_truthful (get : request.method = "GET")
    (route : Route.ofPath (pathOf request.target.toList) = some (.record segment))
    (unescaped : unescape? segment = some id)
    (fits : (S.resolve (.drifting w drift) id).2.1.now.add? S.service.settings.cacheTtl ≠ none) :
    ∃ a answer, (S.resolve (.drifting w drift) id).1 = .answered a ∧
      (serve (.drifting w drift) request S).1 = some answer ∧ Truthful id a answer := by
  obtain ⟨a, ha, hpresentable⟩ := Session.resolve_presentable fits
  have hserve : (serve (.drifting w drift) request S).1 =
      (settle ofResolution (S.resolve (.drifting w drift) id).1
        (S.resolve (.drifting w drift) id).2.1 (S.resolve (.drifting w drift) id).2.2).1 := by
    have hmethod : (Route.record segment).methods.contains request.method = true := by
      rw [get]
      rfl
    have hhead : (request.method == "HEAD") = false := by
      rw [get]
      rfl
    unfold serve
    rw [route]
    simp only [hmethod, hhead, if_true, Bool.false_eq_true, if_false, Route.serve, serveRecord,
      unescaped]
  rw [hserve, ha]
  cases a with
  | error f => exact ⟨_, _, rfl, rfl, truthful_ofFailure id f⟩
  | ok r => exact ⟨_, _, rfl, rfl, truthful_ofResolution hpresentable⟩

/-- A record whose name needs escapes in its path and in the body, of a service that is slow and
    whose stores know no document around it. -/
theorem serve_truthful_escaped :
    let w := knowing (.ofSecs 1) ⟨[], []⟩ []
    let S : Session Unit :=
      .start ⟨⟨.ofSecs 30, false, .zero, .ofSecs 60⟩, true, ⟨true, true⟩⟩ ⟨0⟩ ()
    let request : Request := ⟨"GET", "/id/%22%0a?x"⟩
    Route.ofPath (pathOf request.target.toList) = some (.record "%22%0a".toList) ∧
    unescape? "%22%0a".toList = some "\"\n" ∧
    ∃ a answer, (S.resolve (.drifting w fun _ => .ofMillis 7) "\"\n").1 = .answered a ∧
      (serve (.drifting w fun _ => .ofMillis 7) request S).1 = some answer ∧
      Truthful "\"\n" a answer := by
  intro w S request
  have route : Route.ofPath (pathOf request.target.toList) = some (.record "%22%0a".toList) := by
    decide +kernel
  have unescaped : unescape? "%22%0a".toList = some "\"\n" := by
    have hdecoded : Percent.decode (Utf8.encode "%22%0a".toList) = Utf8.encode ['"', '\n'] := by
      decide +kernel
    unfold unescape?
    rw [hdecoded, Utf8.text?, Utf8.text, Utf8.decode_encode]
    rfl
  exact ⟨route, unescaped, serve_truthful rfl route unescaped (by decide +kernel)⟩

end CitationFusion.Http
