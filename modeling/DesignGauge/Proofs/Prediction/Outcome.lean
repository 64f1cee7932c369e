import DesignGauge.Proofs.Prediction.Attribution

/-!
# How asking for a prediction ends

Reports are sent in one request or in none, and the request is never made again. A service that
fails in whatever way counts as no answer; only a fault that is none of the service, of a text or
of a number ends the work. How a reply is taken that is nested more deeply than there is room for is
left open.

Results:
1. `readReply_error`: why the body of a reply is refused.
2. `Reply.fault?_eq_some_iff`: the replies that end the work with a fault.
3. `predict_idle`: a client without address or key sends nothing, and nothing is sent for no
   reports.
4. `predict_once`: requests and result for every client, all reports and every reply.
5. `torn_not_sent`: finite values are not enough for a report to be sent, and a reply from a
   relative address is not enough for an answer.
-/

namespace DesignGauge

open Text Json

/-! ## Replies that end the work -/

/-- A body is refused because it is no JSON, or because it is nested too deeply. -/
theorem Json.readReply_error {depth : Nat} {body : Octets} {fault : Fault}
    (refused : readReply depth body = .error fault) :
    (∃ detail, fault = .badValue detail) ∨ ∃ kind, fault = .replyTooDeep kind := by
  unfold readReply at refused
  split at refused
  · next detail _ =>
    cases refused
    exact .inl ⟨detail, rfl⟩
  · split at refused
    · cases refused
    · next kind _ _ =>
      cases refused
      exact .inr ⟨kind, rfl⟩
    · cases refused
      exact .inl ⟨_, rfl⟩

theorem Client.uncaught?_eq_some_iff {fault found : Fault} :
    uncaught? fault = some found ↔ fault = found ∧ isCaught found = false := by
  unfold uncaught?
  cases caught : isCaught fault with
  | true =>
    refine ⟨fun none => ?_, fun ⟨same, free⟩ => ?_⟩
    · cases none
    · rw [← same, caught] at free
      cases free
  | false =>
    refine ⟨fun same => ?_, fun ⟨same, _⟩ => congrArg some same⟩
    cases same
    exact ⟨rfl, caught⟩

namespace Reply

variable {depth : Nat} {reply : Reply}

/-- The replies that end the work: a fault that is not caught, an address that is none, and a
response that is nested too deeply. -/
theorem fault?_eq_some_iff {fault : Fault} :
    reply.fault? depth = some fault ↔
      (reply = .raised fault ∧ Client.isCaught fault = false) ∨
      (∃ detail, reply = .badAddress detail ∧ fault = .badAddress detail) ∨
      ∃ status body kind, reply = .response status body ∧ Status.isSuccess status = true ∧
        readReply depth body = .error (.replyTooDeep kind) ∧ fault = .replyTooDeep kind := by
  constructor
  · intro ended
    cases reply with
    | response status body =>
      refine .inr (.inr ?_)
      rw [fault?] at ended
      split at ended
      · next success =>
        split at ended
        · cases ended
        · next found refused =>
          obtain ⟨rfl, free⟩ := Client.uncaught?_eq_some_iff.mp ended
          rcases readReply_error refused with ⟨detail, rfl⟩ | ⟨kind, rfl⟩
          · cases free
          · exact ⟨status, body, kind, rfl, success, refused, rfl⟩
      · cases ended
    | timedOut detail => cases ended
    | broken detail => cases ended
    | badAddress detail =>
      cases ended
      exact .inr (.inl ⟨detail, rfl, rfl⟩)
    | raised found =>
      obtain ⟨rfl, free⟩ := Client.uncaught?_eq_some_iff.mp ended
      exact .inl ⟨rfl, free⟩
  · rintro (⟨rfl, free⟩ | ⟨detail, rfl, rfl⟩ | ⟨status, body, kind, rfl, success, refused, rfl⟩)
    · exact Client.uncaught?_eq_some_iff.mpr ⟨rfl, free⟩
    · rfl
    · rw [fault?, if_pos success, refused]
      rfl

/-- A reply that gives verdicts ends nothing. -/
theorem fault?_of_flags? {flags : SmellFlags} (found : reply.flags? depth = some flags) :
    reply.fault? depth = none := by
  obtain ⟨status, body, entries, _, _, rfl, success, read, _⟩ := flags?_eq_some_iff.mp found
  rw [fault?, if_pos success, read]

end Reply

namespace Client

theorem ending_eq_error_iff {fault? : Option Fault} {flags? : Option SmellFlags} {fault : Fault} :
    ending fault? flags? = .error fault ↔ fault? = some fault := by
  cases fault? with
  | none => simp [ending]
  | some found => simp [ending]

theorem ending_eq_flags_iff {depth : Nat} {reply : Reply} {flags : SmellFlags} :
    ending (reply.fault? depth) (reply.flags? depth) = .ok (some flags) ↔
      reply.flags? depth = some flags := by
  constructor
  · intro ended
    unfold ending at ended
    split at ended
    · cases ended
    · exact Except.ok.inj ended
  · intro found
    rw [Reply.fault?_of_flags? found, found]
    rfl

/-- A reply that is not nested too deeply ends the work by what it raises only, from whatever
address it comes. -/
theorem fault?_counted_eq_some_iff {address : Address} {depth : Nat} {reply : Reply} {fault : Fault}
    (shallow : ∀ status octets kind, reply = .response status octets →
      Status.isSuccess status = true → readReply depth octets ≠ .error (.replyTooDeep kind)) :
    (counted address reply).fault? depth = some fault ↔
      (reply = .raised fault ∧ isCaught fault = false) ∨
      ∃ detail, reply = .badAddress detail ∧ fault = .badAddress detail := by
  rcases counted_cases address reply with ⟨same, _⟩ | ⟨_, ⟨status, body, rfl⟩, refused⟩
  · rw [same, Reply.fault?_eq_some_iff]
    refine or_congr_right (or_iff_left ?_)
    rintro ⟨status, octets, kind, response, success, deep, _⟩
    exact shallow status octets kind response success deep
  · rw [refused]
    constructor
    · intro ended
      cases ended
    · rintro (⟨other, _⟩ | ⟨_, other, _⟩)
      · cases other
      · cases other

/-! ## Asking -/

variable {c : Client} {σ : Type}

/-- Without an address or a key, and without reports, nothing is sent. -/
theorem predict_idle {reports : List Report} (idle : c.isConfigured = false ∨ reports = [])
    (serve : Request → σ → Reply × σ) (s : σ) :
    Exchange.Ended serve (c.predict reports) s (.ok none) [] [] s := by
  have raw : Exchange.Ended serve (c.predictRaw reports) s (.ok none) [] [] s := by
    rw [predictRaw]
    cases configured : c.isConfigured with
    | false => exact (Exchange.Ended.done _ s).tell _
    | true =>
      rcases idle with lacking | rfl
      · rw [configured] at lacking
        cases lacking
      · exact .done _ s
  exact raw.andThen (.done _ s)

/-- Reports are sent in one request at most. There is none if the client has no address or no key,
if there are no reports, and if one of them cannot be sent. Otherwise the one request carries all of
them in order, each with the name of its source file, and the reply to it decides, unless it went
well and is nested more deeply than there is room for: verdicts come of it exactly when the address
is absolute and it went well and is a mapping whose predictions end in a mapping, and a fault
exactly when the exchange raises one that is not caught. Every other reply counts as no answer. -/
theorem predict_once
    (reachable : c.isConfigured = true → ∃ address key, c.dial "/metrics" = .ok (address, key))
    (reports : List Report) (serve : Request → σ → Reply × σ) (s : σ) :
    let transcript := ((c.predict reports).run serve s).1
    ((c.isConfigured = false ∨ reports = [] ∨ ∃ report ∈ reports, report.isSendable = false) →
      transcript.requests = [] ∧ transcript.result = .ok none) ∧
    (c.isConfigured = true → reports ≠ [] → (∀ report ∈ reports, report.isSendable = true) →
      ∃ address key body reply last,
        c.dial "/metrics" = .ok (address, key) ∧
        requestText (.list (reports.map Report.sentRecord)) = .ok body ∧
        transcript.requests = [⟨.post, address.text, key, body⟩] ∧
        serve ⟨.post, address.text, key, body⟩ s = (reply, last) ∧
        ((∀ status octets kind, reply = .response status octets →
            Status.isSuccess status = true →
            readReply c.depth octets ≠ .error (.replyTooDeep kind)) →
          (∀ flags, transcript.result = .ok (some flags) ↔ address.isAbsolute = true ∧
            ∃ status octets entries predictions prediction,
              reply = .response status octets ∧ Status.isSuccess status = true ∧
              readReply c.depth octets = .ok (.map entries) ∧
              Datum.lookup? "predictions" entries = some (.list predictions) ∧
              predictions.getLast? = some (.map prediction) ∧
              flags = SmellFlags.ofPrediction prediction) ∧
          ∀ fault, transcript.result = .error fault ↔
            (reply = .raised fault ∧ isCaught fault = false) ∨
            ∃ detail, reply = .badAddress detail ∧ fault = .badAddress detail)) := by
  intro transcript
  constructor
  · intro idle
    have ended : Exchange.Ended serve (c.predict reports) s (.ok none) [] [] s := by
      cases configured : c.isConfigured with
      | false => exact predict_idle (.inl configured) serve s
      | true =>
        rcases idle with lacking | rfl | ⟨report, member, kept⟩
        · rw [configured] at lacking
          cases lacking
        · exact predict_idle (.inr rfl) serve s
        · obtain ⟨address, key, dialled⟩ := reachable configured
          refine predict_of_not_sendable configured dialled ?_ serve s
          exact List.all_eq_false.mpr ⟨report, member, Bool.eq_false_iff.mp kept⟩
    exact ⟨ended.requests, ended.result⟩
  · intro configured given sendable
    obtain ⟨address, key, dialled⟩ := reachable configured
    obtain ⟨body, written, answered⟩ := predict_of_sendable configured dialled given
      (List.all_eq_true.mpr sendable) serve s
    have ended := answered _ _ rfl
    refine ⟨address, key, body, _, _, dialled, written, ended.requests, rfl, fun shallow =>
      ⟨fun flags => ?_, fun fault => ?_⟩⟩
    · rw [ended.result, ending_eq_flags_iff, flags?_counted_eq_some_iff, Reply.flags?_eq_some_iff]
    · rw [ended.result, ending_eq_error_iff, fault?_counted_eq_some_iff shallow]

/-- Two reports go out together, and the second of two replies is left alone. -/
theorem pair_predicted :
    let reports : List Report := [⟨"A", "", []⟩, ⟨"B", "", [⟨"WMC", .int 50⟩]⟩]
    let transcript := ((plainClient.predict reports).run Exchange.scripted [godReply, godReply]).1
    plainClient.isConfigured = true ∧ (∀ report ∈ reports, report.isSendable = true) ∧
    transcript.requests.length = 1 ∧
    transcript.result = .ok (some ⟨false, true, false, false⟩) := by
  intro reports transcript
  have configured : plainClient.isConfigured = true := by decide +kernel
  have sendable : ∀ report ∈ reports, report.isSendable = true := by decide +kernel
  have god : godReply.flags? plainClient.depth = some ⟨false, true, false, false⟩ := by
    decide +kernel
  obtain ⟨status, octets, entries, predictions, prediction, shape, success, read, rest⟩ :=
    Reply.flags?_eq_some_iff.mp god
  obtain ⟨address, key, dialled, absolute⟩ := plainClient_dials
  obtain ⟨address', key', body, reply, last, dialled', _, requests, served, decided⟩ :=
    (predict_once (fun _ => ⟨address, key, dialled⟩) reports Exchange.scripted
      [godReply, godReply]).2 configured (List.cons_ne_nil _ _) sendable
  obtain ⟨rfl, rfl⟩ := Prod.mk.inj (Except.ok.inj (dialled.symm.trans dialled'))
  obtain ⟨rfl, _⟩ := Prod.mk.inj served
  have shallow : ∀ status octets kind, godReply = .response status octets →
      Status.isSuccess status = true →
      readReply plainClient.depth octets ≠ .error (.replyTooDeep kind) := by
    intro status' octets' kind same _ deep
    obtain ⟨_, rfl⟩ := Reply.response.inj (shape.symm.trans same)
    rw [read] at deep
    cases deep
  refine ⟨configured, sendable, congrArg List.length requests, ((decided shallow).1 _).mpr ?_⟩
  exact ⟨absolute, status, octets, entries, predictions, prediction, shape, success, read, rest⟩

/-- A report whose values are finite is not sent if its path holds half of a surrogate pair. A reply
that gives verdicts gives none if it comes from a relative address. -/
theorem torn_not_sent :
    (¬ ∀ (c : Client) (reports : List Report) (script : List Reply), c.isConfigured = true →
      (∃ address key, c.dial "/metrics" = .ok (address, key) ∧ address.isAbsolute = true) →
      reports ≠ [] →
      (∀ report ∈ reports, report.metrics.all (·.value.isFinite) = true) →
      ((c.predict reports).run Exchange.scripted script).1.requests.length = 1) ∧
    let relative : Client := ⟨"h", .text "k", .null, usualDepth⟩
    let transcript := ((relative.predict [⟨"A", "", []⟩]).run Exchange.scripted [godReply]).1
    relative.isConfigured = true ∧ (relative.dial "/metrics").isOk = true ∧
    godReply.flags? relative.depth = some ⟨false, true, false, false⟩ ∧
    transcript.requests.length = 1 ∧ transcript.result.toOption = some none := by
  constructor
  · intro sends
    let torn : Report := ⟨String.ofList (spell 0xD800), "", [⟨"WMC", .int 50⟩]⟩
    have configured : plainClient.isConfigured = true := by decide +kernel
    obtain ⟨address, key, dialled, _⟩ := plainClient_dials
    have once := sends plainClient [torn] [godReply] configured plainClient_dials
      (List.cons_ne_nil _ _) (by decide +kernel)
    have kept : [torn].all Report.isSendable = false := by decide +kernel
    have ended := predict_of_not_sendable configured dialled kept Exchange.scripted [godReply]
    rw [ended.requests] at once
    cases once
  · decide +kernel

end Client

end DesignGauge
