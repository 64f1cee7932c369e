import DesignGauge.Prediction
import DesignGauge.Proofs.Report.Persistence

/-!
# Sending reports

Reports go out in one request whose body holds them alone, or in none: a value that is not finite,
an integer of too many digits and half of a surrogate pair have no place in a body. What comes back
gives verdicts exactly when it went well and ends in a prediction; all else counts as no answer.

Results:
1. `sent_submission`: the text of reports that are sent, and when there is none.
2. `bodyText_submission`: reports have a body exactly when each is sendable.
3. `Ended.andThen`: exchanges in sequence.
4. `flags?_eq_some_iff`: the replies that give verdicts.
5. `predict_of_sendable`, `predict_of_refused`: the exchange about some reports.
-/

namespace DesignGauge

open Text Json

/-! ## Whole texts -/

theorem escapedChar_ne_nil (c : Char) : escapedChar c ≠ [] := by
  unfold escapedChar
  iterate 7
    split
    · exact List.cons_ne_nil _ _
  exact List.cons_ne_nil _ _

/-- Escaping a text leaves its marks in pairs or alone as they are. -/
theorem isWholeList_escaped (text : List Char) :
    isWholeList (text.flatMap escapedChar) = isWholeList text := by
  have kept : escapedChar halfMark = [halfMark] := by decide
  induction text using isWholeList.induct with
  | case1 => rfl
  | case2 c =>
    rw [List.flatMap_cons, List.flatMap_nil]
    by_cases isMark : c = halfMark
    · rw [isMark, kept]
      rfl
    · rw [isWholeList_plain_append (plain_escapedChar isMark), isWholeList_cons isMark]
  | case3 c d rest isMark ih =>
    rw [eq_of_beq isMark, List.flatMap_cons, List.flatMap_cons, kept, List.singleton_append,
      isWholeList_mark]
    by_cases twice : d = halfMark
    · rw [twice, kept, List.singleton_append, isWholeList_mark, ih]
    · obtain ⟨e, more, shape⟩ := List.exists_cons_of_ne_nil (escapedChar_ne_nil d)
      have plain : e ≠ halfMark :=
        plain_escapedChar twice e (shape ▸ List.mem_cons_self)
      rw [shape, List.cons_append, isWholeList_mark, beq_false_of_ne plain, beq_false_of_ne twice,
        Bool.false_and, Bool.false_and]
  | case4 c d rest isChar ih =>
    have other : c ≠ halfMark := by simpa using isChar
    rw [List.flatMap_cons, isWholeList_plain_append (plain_escapedChar other), ih,
      isWholeList_cons other]

theorem isWhole_encodeText (s : String) : isWhole (encodeText s) = isWhole s := by
  rw [isWhole, encodeText, String.toList_ofList, List.cons_append, isWholeList_cons (by decide),
    isWholeList_append_cons (by decide), isWholeList_escaped, isWholeList, Bool.and_true]
  rfl

theorem isWhole_intercalate (parts : List String) :
    isWhole (String.intercalate "," parts) = parts.all isWhole := by
  rw [isWhole, String.toList_intercalate, show ",".toList = [','] from rfl,
    isWholeList_intercalate (by decide), List.all_map]
  rfl

theorem whole_exchange {text : List Char} (whole : Whole text) :
    Whole (exchange '\\' '/' text) := by
  induction whole with
  | nil => exact .nil
  | char other _ ih =>
    refine .char ?_ ih
    dsimp only
    split
    · decide
    · exact other
  | mark _ ih => exact .mark ih

/-- The name of a source file is whole if its path is. -/
theorem isWhole_fileName {path : String} (whole : isWhole path = true) :
    isWhole (Path.sourceName path).name = true := by
  have pieces : ∀ piece ∈ (exchange '\\' '/' path.toList).splitOn '/',
      isWholeList piece = true := by
    have joined : List.intercalate ['/'] ((exchange '\\' '/' path.toList).splitOn '/') =
        exchange '\\' '/' path.toList := List.intercalate_splitOn '/'
    have exchanged := isWholeList_iff.mpr (whole_exchange (isWholeList_iff.mp whole))
    rw [← joined, isWholeList_intercalate (by decide)] at exchanged
    exact List.all_eq_true.mp exchanged
  rw [Path.name, List.getLastD_eq_getLast?]
  cases last : (Path.sourceName path).parts.getLast? with
  | none => rfl
  | some name =>
    have member := (List.mem_filter.mp (List.mem_of_getLast? last)).1
    obtain ⟨piece, cut, rfl⟩ := List.mem_map.mp member
    rw [String.toList_ofList] at cut
    rw [Option.getD_some, isWhole, String.toList_ofList, pieces piece cut]

/-! ## The body of a report -/

theorem isWhole_enclose {left right : Char} (opens : left ≠ halfMark) (closes : right ≠ halfMark)
    (depth : Nat) (parts : List String) :
    isWhole (Style.request.enclose depth (String.ofList [left]) (String.ofList [right]) parts) =
      parts.all isWhole := by
  unfold Style.enclose
  split
  · next empty =>
    rw [isWhole, String.toList_append, String.toList_ofList, String.toList_ofList,
      List.singleton_append, isWholeList_cons opens, isWholeList_cons closes,
      List.isEmpty_iff.mp empty]
    rfl
  · show isWhole (String.ofList [left] ++ String.intercalate "," parts ++ String.ofList [right]) = _
    rw [isWhole, String.toList_append, String.toList_append, String.toList_ofList,
      String.toList_ofList, List.singleton_append, List.cons_append, isWholeList_cons opens,
      isWholeList_append_cons closes, isWholeList, Bool.and_true, ← isWhole_intercalate]
    rfl

theorem isWhole_member (name text : String) :
    isWhole (encodeText name ++ Style.request.colon ++ text) = (isWhole name && isWhole text) := by
  rw [isWhole, String.toList_append, String.toList_append,
    show Style.request.colon.toList = [':'] from rfl, List.append_assoc, List.singleton_append,
    isWholeList_append_cons (by decide), ← isWhole_encodeText name]
  rfl

theorem isWhole_of_numeral {s : String} {negative : Bool} {n : Numeral}
    (spelled : s.toList = minusText negative ++ n.text) : isWhole s = true := by
  rw [isWhole, spelled]
  exact isWholeList_iff.mpr (whole_numeral negative n)

/-- A number that has a place in a body: it is finite and can be written. -/
def Number.isSendable (v : Number) : Bool := v.isFinite && (Datum.ofNumber v).isWritable

/-- A value is refused because of one of its numbers. -/
def Json.WriteRefusal.isNumeric : WriteRefusal → Bool
  | .notFinite | .tooManyDigits => true
  | _ => false

/-- Writing gives a result exactly when the numbers fit, and that result is whole or not. -/
def Sends {α : Type} (isWhole : α → Bool) (written : Except WriteRefusal α) (fits whole : Bool) :
    Prop :=
  if fits then ∃ result, written = .ok result ∧ isWhole result = whole
  else ∃ refusal, written = .error refusal ∧ refusal.isNumeric = true

section Steps

variable {α β γ : Type} {p : α → Bool} {q : β → Bool} {r : γ → Bool}
  {first : Except WriteRefusal α} {second : Except WriteRefusal β}
  {fits whole laterFits laterWhole : Bool}

theorem Sends.map {f : α → γ} (sends : Sends p first fits whole) (same : ∀ a, r (f a) = p a) :
    Sends r (do return f (← first)) fits whole := by
  cases fits with
  | false =>
    obtain ⟨refusal, rfl, numeric⟩ := sends
    exact ⟨refusal, rfl, numeric⟩
  | true =>
    obtain ⟨a, rfl, isWhole⟩ := sends
    exact ⟨f a, rfl, (same a).trans isWhole⟩

/-- The first refusal is that of both steps. -/
theorem Sends.both {f : α → β → γ} (sends : Sends p first fits whole)
    (later : Sends q second laterFits laterWhole) (same : ∀ a b, r (f a b) = (p a && q b)) :
    Sends r (do return f (← first) (← second)) (fits && laterFits) (whole && laterWhole) := by
  cases fits with
  | false =>
    obtain ⟨refusal, rfl, numeric⟩ := sends
    exact ⟨refusal, rfl, numeric⟩
  | true =>
    obtain ⟨a, rfl, isWhole⟩ := sends
    cases laterFits with
    | false =>
      obtain ⟨refusal, rfl, numeric⟩ := later
      exact ⟨refusal, rfl, numeric⟩
    | true =>
      obtain ⟨b, rfl, isWhole'⟩ := later
      refine ⟨f a b, rfl, ?_⟩
      rw [same, isWhole, isWhole']

end Steps

/-- A value that is sent: it has a text exactly when its numbers fit, and that text is whole or
not. -/
def Sent (value : Datum) (fits whole : Bool) : Prop :=
  ∀ depth, Sends isWhole (write .request depth value) fits whole

/-- Items that are sent. -/
def SentItems (values : List Datum) (fits whole : Bool) : Prop :=
  ∀ depth, Sends (·.all isWhole) (writeItems .request depth values) fits whole

/-- Members that are sent. -/
def SentMembers (members : List (Datum × Datum)) (fits whole : Bool) : Prop :=
  ∀ depth, Sends (·.all isWhole) (writeMembers .request depth members) fits whole

theorem sent_number (v : Number) : Sent (.ofNumber v) v.isSendable true := by
  intro depth
  cases v with
  | int i =>
    have sendable : (Number.int i).isSendable =
        decide (i.natAbs < Nat.pow 10 Reading.digitLimit) := by
      rw [Number.isSendable, Number.isFinite, Bool.true_and, Datum.ofNumber, Datum.isWritable]
    have bounded : Style.request.bounded = false := rfl
    rw [sendable, Datum.ofNumber, write, writeInt, bounded, if_neg Bool.false_ne_true]
    generalize Nat.pow 10 Reading.digitLimit = bound
    by_cases few : i.natAbs < bound
    · rw [decide_eq_true few, if_pos few]
      exact ⟨_, rfl, isWhole_of_numeral (toList_toString_int i)⟩
    · rw [decide_eq_false few, if_neg few]
      exact ⟨.tooManyDigits, rfl, rfl⟩
  | float x =>
    cases x with
    | finite x =>
      obtain ⟨n, spelled, _⟩ := exists_numeral_render x .message
      exact ⟨_, rfl, isWhole_of_numeral spelled⟩
    | infinite negative => exact ⟨.notFinite, rfl, rfl⟩
    | nan => exact ⟨.notFinite, rfl, rfl⟩

theorem sent_text (s : String) : Sent (.text s) true (isWhole s) :=
  fun _ => ⟨_, rfl, isWhole_encodeText s⟩

section Parts

variable {fits whole laterFits laterWhole : Bool}

theorem SentItems.nil : SentItems [] true true := fun _ => ⟨[], rfl, rfl⟩

theorem SentItems.cons {value : Datum} {rest : List Datum} (first : Sent value fits whole)
    (later : SentItems rest laterFits laterWhole) :
    SentItems (value :: rest) (fits && laterFits) (whole && laterWhole) := by
  intro depth
  rw [writeItems]
  exact (first depth).both (later depth) fun _ _ => List.all_cons

theorem SentItems.of_forall {α : Type} {value : α → Datum} {fits whole : α → Bool}
    (each : ∀ x, Sent (value x) (fits x) (whole x)) (xs : List α) :
    SentItems (xs.map value) (xs.all fits) (xs.all whole) := by
  induction xs with
  | nil => exact .nil
  | cons x rest ih => exact .cons (each x) ih

theorem SentItems.list {values : List Datum} (items : SentItems values fits whole) :
    Sent (.list values) fits whole := by
  intro depth
  rw [write]
  exact (items (depth + 1)).map (isWhole_enclose (by decide) (by decide) depth)

theorem SentMembers.nil : SentMembers [] true true := fun _ => ⟨[], rfl, rfl⟩

theorem SentMembers.cons {name : String} {value : Datum} {rest : List (Datum × Datum)}
    (named : isWhole name = true) (first : Sent value fits whole)
    (later : SentMembers rest laterFits laterWhole) :
    SentMembers ((.text name, value) :: rest) (fits && laterFits) (whole && laterWhole) := by
  intro depth
  have key : writeName .request (.text name) = .ok (encodeText name) := rfl
  rw [writeMembers, key]
  refine (first depth).both (later depth) fun text texts => ?_
  rw [List.all_cons, isWhole_member, named, Bool.true_and]

theorem SentMembers.map {entries : List (Datum × Datum)}
    (members : SentMembers entries fits whole) : Sent (.map entries) fits whole := by
  intro depth
  rw [write]
  exact (members (depth + 1)).map (isWhole_enclose (by decide) (by decide) depth)

end Parts

theorem sent_entry (e : MetricEntry) : Sent e.write e.value.isSendable (isWhole e.name) := by
  have parts := SentMembers.cons (show isWhole "name" = true from rfl) (sent_text e.name)
    (.cons (show isWhole "value" = true from rfl) (sent_number e.value) .nil)
  rw [Bool.true_and, Bool.and_true, Bool.and_true, Bool.and_true] at parts
  exact parts.map

namespace Report

/-- A report that can be sent: its values have a place in a body and its texts are whole. -/
def isSendable (r : Report) : Bool :=
  r.metrics.all (·.value.isSendable) && r.texts.all isWhole

/-- The record of a report as it is sent, with the name of its source file. -/
def sentRecord (r : Report) : Datum :=
  .ofFields [("fullPath", .text r.fullPath), ("folderName", .text r.folderName),
    ("metrics", .list (r.metrics.map MetricEntry.write)), ("fileName", .text r.fileName)]

theorem submission_eq (reports : List Report) :
    submission reports = .list (reports.map sentRecord) := rfl

/-- The text of one report that is sent; there is none if some value has no place in it. -/
theorem sent_record (r : Report) :
    Sent r.sentRecord (r.metrics.all (·.value.isSendable)) (r.texts.all isWhole) := by
  have metrics := (SentItems.of_forall sent_entry r.metrics).list
  have parts := SentMembers.cons (show isWhole "fullPath" = true from rfl) (sent_text r.fullPath)
    (.cons (show isWhole "folderName" = true from rfl) (sent_text r.folderName)
    (.cons (show isWhole "metrics" = true from rfl) metrics
    (.cons (show isWhole "fileName" = true from rfl) (sent_text r.fileName) .nil)))
  have record := parts.map
  simp only [Bool.true_and, Bool.and_true] at record
  -- the name of the source file is made of characters of its path
  have named : (isWhole r.fullPath && (isWhole r.folderName &&
      ((r.metrics.all fun e => isWhole e.name) && isWhole r.fileName))) = r.texts.all isWhole := by
    rw [texts, List.all_cons, List.all_cons, List.all_map]
    cases whole : isWhole r.fullPath with
    | false => rfl
    | true =>
      rw [Report.fileName, isWhole_fileName whole, Bool.and_true]
      rfl
  rw [named] at record
  exact record

/-- The text of some reports that are sent. -/
theorem sent_submission (reports : List Report) :
    Sent (submission reports) (reports.all fun r => r.metrics.all (·.value.isSendable))
      (reports.all fun r => r.texts.all isWhole) := by
  rw [submission_eq]
  exact (SentItems.of_forall sent_record reports).list

/-- Reports have a body exactly when each of them can be sent. -/
theorem bodyText_submission (reports : List Report) :
    if reports.all isSendable then
      ∃ text, requestText (submission reports) = .ok text ∧
        Client.bodyText (submission reports) = .ok text
    else ∃ fault, Client.bodyText (submission reports) = .error fault ∧
      Client.isNotJson fault = true := by
  have parts : reports.all isSendable =
      ((reports.all fun r => r.metrics.all (·.value.isSendable)) &&
        reports.all fun r => r.texts.all isWhole) := by
    rw [Bool.eq_iff_iff]
    simp only [isSendable, List.all_eq_true, Bool.and_eq_true, forall_and]
  have sent := sent_submission reports 0
  rw [parts]
  unfold Client.bodyText requestText
  cases fits : reports.all fun r => r.metrics.all (·.value.isSendable) with
  | false =>
    rw [fits] at sent
    obtain ⟨refusal, refused, numeric⟩ := sent
    rw [refused]
    refine ⟨refusal.fault, rfl, ?_⟩
    cases refusal with
    | notFinite => rfl
    | tooManyDigits => rfl
    | _ => exact nomatch numeric
  | true =>
    rw [fits] at sent
    obtain ⟨text, written, same⟩ := sent
    rw [written, ← same]
    cases whole : isWhole text with
    | true => exact ⟨text, rfl, if_pos whole⟩
    | false => exact ⟨.loneSurrogate text, if_neg (by rw [whole]; exact Bool.false_ne_true), rfl⟩

end Report

/-! ## Runs of exchanges -/

namespace Exchange

variable {α β σ : Type} {serve : Request → σ → Reply × σ}

/-- How an exchange ends, with the requests and the pauses on the way. -/
structure Ended (serve : Request → σ → Reply × σ) (e : Exchange α) (s : σ)
    (result : Except Fault α) (requests : List Request) (pauses : List Datum) (last : σ) :
    Prop where
  result : (e.run serve s).1.result = result
  requests : (e.run serve s).1.requests = requests
  pauses : (e.run serve s).1.pauses = pauses
  last : (e.run serve s).2 = last

namespace Ended

variable {e : Exchange α} {s last : σ} {result : Except Fault α} {requests : List Request}
  {pauses : List Datum}

theorem done (result : Except Fault α) (s : σ) : Ended serve (.done result) s result [] [] s :=
  ⟨rfl, rfl, rfl, rfl⟩

theorem tell (lines : List LogLine) (rest : Ended serve e s result requests pauses last) :
    Ended serve (.tell lines e) s result requests pauses last :=
  ⟨rest.result, rest.requests, rest.pauses, rest.last⟩

theorem pause (delay : Datum) (rest : Ended serve e s result requests pauses last) :
    Ended serve (.pause delay e) s result requests (delay :: pauses) last :=
  ⟨rest.result, rest.requests, congrArg (delay :: ·) rest.pauses, rest.last⟩

theorem ask {request : Request} {next : Reply → Exchange α} {reply : Reply} {s' : σ}
    (served : serve request s = (reply, s'))
    (rest : Ended serve (next reply) s' result requests pauses last) :
    Ended serve (.ask request next) s result (request :: requests) pauses last := by
  constructor
  · rw [run, served]
    exact rest.result
  · rw [run, served]
    exact congrArg (request :: ·) rest.requests
  · rw [run, served]
    exact rest.pauses
  · rw [run, served]
    exact rest.last

/-- Changing the result leaves the run as it is. -/
theorem mapResult (f : Except Fault α → Except Fault β)
    (first : Ended serve e s result requests pauses last) :
    Ended serve (e.mapResult f) s (f result) requests pauses last := by
  obtain ⟨rfl, rfl, rfl, rfl⟩ := first
  induction e generalizing s with
  | done result => exact done (f result) s
  | tell lines rest ih => exact ih.tell lines
  | pause delay rest ih => exact ih.pause delay
  | ask request next ih => exact ask rfl (ih _)

/-- Two exchanges in sequence: the second starts where the first has ended. -/
theorem andThen {f : α → Exchange β} {a : α} {result : Except Fault β} {middle : σ}
    {moreRequests : List Request} {morePauses : List Datum}
    (first : Ended serve e s (.ok a) requests pauses middle)
    (second : Ended serve (f a) middle result moreRequests morePauses last) :
    Ended serve (e.andThen f) s result (requests ++ moreRequests) (pauses ++ morePauses) last := by
  obtain ⟨value, rfl, rfl, rfl⟩ := first
  induction e generalizing s with
  | done result =>
    obtain rfl : result = .ok a := value
    exact second
  | tell lines rest ih => exact (ih value second).tell lines
  | pause delay rest ih => exact (ih value second).pause delay
  | ask request next ih => exact ask rfl (ih _ value second)

/-- A fault ends a sequence. -/
theorem andThen_error {f : α → Exchange β} {fault : Fault}
    (first : Ended serve e s (.error fault) requests pauses last) :
    Ended serve (e.andThen f) s (.error fault) requests pauses last := by
  obtain ⟨failed, rfl, rfl, rfl⟩ := first
  induction e generalizing s with
  | done result =>
    obtain rfl : result = .error fault := failed
    exact done (.error fault) s
  | tell lines rest ih => exact (ih failed).tell lines
  | pause delay rest ih => exact (ih failed).pause delay
  | ask request next ih => exact ask rfl (ih _ failed)

end Ended

end Exchange

/-! ## The answer to reports -/

/-- The verdicts of a reply. -/
def Reply.flags? (depth : Nat) : Reply → Option SmellFlags
  | .response status body =>
    if Status.isSuccess status then match Json.readReply depth body with
      | .ok answer => SmellFlags.ofAnswer? answer
      | .error _ => none
    else none
  | _ => none

/-- A fault is already a failure of the service. -/
def Client.isFailure : Fault → Bool
  | .prediction _ => true
  | _ => false

/-- A fault counts as no answer: one of a text or a number, or a failure of the service. -/
def Client.isCaught (fault : Fault) : Bool := Client.isNotJson fault || Client.isFailure fault

/-- A fault unless it counts as no answer. -/
def Client.uncaught? (fault : Fault) : Option Fault :=
  if Client.isCaught fault then none else some fault

/-- The fault that a reply ends the work with. -/
def Reply.fault? (depth : Nat) : Reply → Option Fault
  | .response status body =>
    if Status.isSuccess status then match Json.readReply depth body with
      | .ok _ => none
      | .error fault => Client.uncaught? fault
    else none
  | .badAddress detail => some (.badAddress detail)
  | .raised fault => Client.uncaught? fault
  | _ => none

/-- How work ends: with a fault if there is one, and else with what is found. -/
def Client.ending (fault? : Option Fault) (flags? : Option SmellFlags) :
    Except Fault (Option SmellFlags) :=
  match fault? with
  | some fault => .error fault
  | none => .ok flags?

theorem Client.uncaught?_of_isNotJson {fault : Fault} (notJson : Client.isNotJson fault = true) :
    Client.uncaught? fault = none := by
  rw [Client.uncaught?, Client.isCaught, notJson]
  rfl

theorem SmellFlags.ofAnswer?_eq_some {answer : Datum} {flags : SmellFlags}
    (found : ofAnswer? answer = some flags) : ∃ entries predictions prediction,
      answer = .map entries ∧ Datum.lookup? "predictions" entries = some (.list predictions) ∧
      predictions.getLast? = some (.map prediction) ∧ flags = ofPrediction prediction := by
  unfold ofAnswer? at found
  split at found
  · next prediction last =>
    unfold lastPrediction? at last
    split at last
    · next entries =>
      split at last
      · next predictions listed =>
        exact ⟨entries, predictions, prediction, rfl, listed, last, (Option.some.inj found).symm⟩
      · exact nomatch last
    · exact nomatch last
  · exact nomatch found

/-- The replies that give verdicts: those that went well and are a mapping whose predictions end in
a mapping. -/
theorem Reply.flags?_eq_some_iff {depth : Nat} {reply : Reply} {flags : SmellFlags} :
    reply.flags? depth = some flags ↔ ∃ status body entries predictions prediction,
      reply = .response status body ∧ Status.isSuccess status = true ∧
      Json.readReply depth body = .ok (.map entries) ∧
      Datum.lookup? "predictions" entries = some (.list predictions) ∧
      predictions.getLast? = some (.map prediction) ∧
      flags = SmellFlags.ofPrediction prediction := by
  constructor
  · intro found
    cases reply with
    | response status body =>
      rw [Reply.flags?] at found
      split at found
      · next success =>
        split at found
        · next answer read =>
          obtain ⟨entries, predictions, prediction, rfl, listed, last, rfl⟩ :=
            SmellFlags.ofAnswer?_eq_some found
          exact ⟨status, body, entries, predictions, prediction, rfl, success, read, listed, last,
            rfl⟩
        · exact nomatch found
      · exact nomatch found
    | timedOut detail => exact nomatch found
    | broken detail => exact nomatch found
    | badAddress detail => exact nomatch found
    | raised fault => exact nomatch found
  · rintro ⟨status, body, entries, predictions, prediction, rfl, success, read, listed, last, rfl⟩
    rw [Reply.flags?, if_pos success, read]
    simp only [SmellFlags.ofAnswer?, SmellFlags.lastPrediction?, listed, last]

namespace Client

variable {c : Client} {address : Address} {key : Option String} {σ : Type}
  {serve : Request → σ → Reply × σ}

/-- The reply that counts: a response from a relative address is one that was refused. -/
def counted (address : Address) : Reply → Reply
  | .response status body =>
    if address.isAbsolute then .response status body
    else .raised (.relativeAddress address.text)
  | reply => reply

/-- A reply counts as it is, unless it is a response from a relative address. -/
theorem counted_cases (address : Address) (reply : Reply) :
    (counted address reply = reply ∧
      (address.isAbsolute = true ∨ ∀ status body, reply ≠ .response status body)) ∨
    (address.isAbsolute = false ∧ (∃ status body, reply = .response status body) ∧
      counted address reply = .raised (.relativeAddress address.text)) := by
  cases reply with
  | response status body =>
    rw [counted]
    cases address.isAbsolute with
    | true => exact .inl ⟨rfl, .inl rfl⟩
    | false => exact .inr ⟨rfl, ⟨status, body, rfl⟩, rfl⟩
  | timedOut detail => exact .inl ⟨rfl, .inr fun _ _ => Reply.noConfusion⟩
  | broken detail => exact .inl ⟨rfl, .inr fun _ _ => Reply.noConfusion⟩
  | badAddress detail => exact .inl ⟨rfl, .inr fun _ _ => Reply.noConfusion⟩
  | raised fault => exact .inl ⟨rfl, .inr fun _ _ => Reply.noConfusion⟩

theorem heard_conclude (c : Client) (address : Address) (reply : Reply) :
    heard address c.conclude fail reply = c.conclude (counted address reply) := by
  cases reply with
  | response status body =>
    rw [heard, counted]
    split
    · rfl
    · rfl
  | timedOut detail => rfl
  | broken detail => rfl
  | badAddress detail => rfl
  | raised fault => rfl

/-- Verdicts come from an absolute address only. -/
theorem flags?_counted_eq_some_iff {depth : Nat} {reply : Reply} {flags : SmellFlags} :
    (counted address reply).flags? depth = some flags ↔
      address.isAbsolute = true ∧ reply.flags? depth = some flags := by
  rcases counted_cases address reply with ⟨same, direct⟩ | ⟨relative, _, refused⟩
  · rw [same]
    refine ⟨fun found => ⟨direct.resolve_right fun none => ?_, found⟩, And.right⟩
    obtain ⟨status, body, _, _, _, response, _⟩ := Reply.flags?_eq_some_iff.mp found
    exact none status body response
  · rw [refused, relative]
    constructor
    · intro found
      cases found
    · intro found
      cases found.1

/-- The verdicts that come of what a message brings back. -/
def verdictOf (result : Except Fault Datum) : Except Fault (Option SmellFlags) :=
  (answered result).map (·.bind SmellFlags.ofAnswer?)

theorem answered_error (fault : Fault) :
    answered (.error fault : Except Fault Datum) =
      if isFailure fault then .ok none else .error fault := by
  cases fault <;> rfl

/-- A fault of a text or a number ends as a failure of the service. -/
theorem ended_fail (fault : Fault) (s : σ) : ∃ result,
    Exchange.Ended serve (fail fault) s result [] [] s ∧
    verdictOf result = ending (uncaught? fault) none := by
  cases notJson : isNotJson fault with
  | true =>
    refine ⟨.error (.prediction .notJson), ?_, ?_⟩
    · rw [fail, if_pos notJson]
      exact (Exchange.Ended.done _ s).tell _
    · rw [uncaught?_of_isNotJson notJson]
      rfl
  | false =>
    refine ⟨.error fault, ?_, ?_⟩
    · rw [fail, if_neg (Bool.eq_false_iff.mp notJson)]
      exact Exchange.Ended.done _ s
    · rw [verdictOf, answered_error, uncaught?, isCaught, notJson, Bool.false_or]
      cases isFailure fault with
      | true => rfl
      | false => rfl

/-- What a reply amounts to: a value that may hold verdicts, or a fault. -/
theorem ended_conclude (c : Client) (reply : Reply) (s : σ) : ∃ result,
    Exchange.Ended serve (c.conclude reply) s result [] [] s ∧
    verdictOf result = ending (reply.fault? c.depth) (reply.flags? c.depth) := by
  cases reply with
  | response status body =>
    rw [conclude, Reply.fault?, Reply.flags?]
    by_cases success : Status.isSuccess status = true
    · rw [if_pos success, if_pos success, if_pos success]
      cases read : Json.readReply c.depth body with
      | ok answer => exact ⟨.ok answer, .done _ s, rfl⟩
      | error fault => exact ended_fail fault s
    · rw [if_neg success, if_neg success, if_neg success]
      exact ⟨.error _, (Exchange.Ended.done _ s).tell _, rfl⟩
  | timedOut detail => exact ⟨.error _, (Exchange.Ended.done _ s).tell _, rfl⟩
  | broken detail => exact ⟨.error _, (Exchange.Ended.done _ s).tell _, rfl⟩
  | badAddress detail => exact ⟨.error _, .done _ s, rfl⟩
  | raised fault => exact ended_fail fault s

/-- The verdicts on reports are those of the value that comes back, if one does. -/
theorem ended_predict (configured : c.isConfigured = true) {reports : List Report}
    (given : reports ≠ []) {s last : σ} {result : Except Fault Datum} {requests : List Request}
    {pauses : List Datum}
    (posted : Exchange.Ended serve (c.post (Report.submission reports)) s result requests pauses
      last) :
    Exchange.Ended serve (c.predict reports) s (verdictOf result) requests pauses last := by
  have mapped := posted.mapResult answered
  have someReports : reports.isEmpty = false := List.isEmpty_eq_false_iff.mpr given
  rw [verdictOf]
  cases answer : answered result with
  | error fault =>
    rw [answer] at mapped
    have raw : Exchange.Ended serve (c.predictRaw reports) s (.error fault) requests pauses
        last := by
      rw [predictRaw, configured, someReports]
      exact mapped.andThen_error
    exact raw.andThen_error
  | ok found =>
    rw [answer] at mapped
    have raw : Exchange.Ended serve (c.predictRaw reports) s (.ok found) requests pauses last := by
      rw [predictRaw, configured, someReports, ← List.append_nil requests,
        ← List.append_nil pauses]
      refine mapped.andThen ?_
      cases found with
      | none => exact .done _ last
      | some value => exact (Exchange.Ended.done _ last).tell _
    rw [predict, ← List.append_nil requests, ← List.append_nil pauses]
    refine raw.andThen ?_
    cases found with
    | none => exact .done _ last
    | some value => exact (Exchange.Ended.done _ last).tell _

/-- Reports for which no request can be built, because of a text or a number, have no answer. -/
theorem predict_of_refused (configured : c.isConfigured = true) {reports : List Report}
    (given : reports ≠ []) {fault : Fault}
    (refused : c.submission (Report.submission reports) = .error fault)
    (notJson : isNotJson fault = true) (serve : Request → σ → Reply × σ) (s : σ) :
    Exchange.Ended serve (c.predict reports) s (.ok none) [] [] s := by
  obtain ⟨result, ended, verdict⟩ : ∃ result,
      Exchange.Ended serve (fail fault) s result [] [] s ∧ _ := ended_fail fault s
  have posted : Exchange.Ended serve (c.post (Report.submission reports)) s result [] [] s := by
    rw [post, refused]
    exact ended
  have predicted := ended_predict configured given posted
  rw [verdict, uncaught?_of_isNotJson notJson] at predicted
  exact predicted

/-- Reports of which one cannot be sent make no request and have no answer. -/
theorem predict_of_not_sendable (configured : c.isConfigured = true)
    (dialled : c.dial "/metrics" = .ok (address, key)) {reports : List Report}
    (kept : reports.all Report.isSendable = false) (serve : Request → σ → Reply × σ) (s : σ) :
    Exchange.Ended serve (c.predict reports) s (.ok none) [] [] s := by
  have given : reports ≠ [] := by
    rintro rfl
    cases kept
  have body := Report.bodyText_submission reports
  rw [kept] at body
  obtain ⟨fault, failed, notJson⟩ := body
  have refused : c.submission (Report.submission reports) = .error fault := by
    rw [submission, dialled]
    simp only [bind, Except.bind, failed]
  exact predict_of_refused configured given refused notJson serve s

/-- Reports that can be sent make one request together, and the reply to it gives the answer. -/
theorem predict_of_sendable (configured : c.isConfigured = true)
    (dialled : c.dial "/metrics" = .ok (address, key)) {reports : List Report}
    (given : reports ≠ []) (sendable : reports.all Report.isSendable = true)
    (serve : Request → σ → Reply × σ) (s : σ) :
    ∃ body, requestText (Report.submission reports) = .ok body ∧
      ∀ reply last, serve ⟨.post, address.text, key, body⟩ s = (reply, last) →
        Exchange.Ended serve (c.predict reports) s
          (ending ((counted address reply).fault? c.depth) ((counted address reply).flags? c.depth))
          [⟨.post, address.text, key, body⟩] [] last := by
  have body := Report.bodyText_submission reports
  rw [sendable] at body
  obtain ⟨text, written, made⟩ := body
  have request : c.submission (Report.submission reports) =
      .ok (address, ⟨.post, address.text, key, text⟩) := by
    rw [submission, dialled]
    simp only [bind, Except.bind, made]
    rfl
  refine ⟨text, written, fun reply last served => ?_⟩
  obtain ⟨result, concluded, verdict⟩ : ∃ result,
      Exchange.Ended serve (c.conclude (counted address reply)) last result [] [] last ∧ _ :=
    ended_conclude c (counted address reply) last
  have posted : Exchange.Ended serve (c.post (Report.submission reports)) s result
      [⟨.post, address.text, key, text⟩] [] last := by
    rw [post, request]
    refine .ask served ?_
    rw [heard_conclude]
    exact concluded
  rw [← verdict]
  exact ended_predict configured given posted

end Client

end DesignGauge
