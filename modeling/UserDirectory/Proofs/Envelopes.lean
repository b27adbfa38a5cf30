import UserDirectory.Application
import UserDirectory.Proofs.Records

/-!
# Envelopes over HTTP

An envelope has any number of 32 bits as its status; a reply has one of three digits. The number is
first taken as one of 16 bits, which it is or is not (`code?_eq_some_iff`), and then checked for
its digits, so that no number is mistaken for another that it equals modulo 2^16. What the status
of the reply may lose is kept in its body, which is read back as the envelope.
-/

namespace UserDirectory.Envelope

variable {e : Envelope}

/-- A number of 16 bits is taken for the status only if it is the status. -/
theorem code?_eq_some_iff {code : UInt16} : e.code? = some code ↔ e.status.toInt = code.toNat := by
  have hcode : code.toNat < 65536 := code.toNat_lt
  unfold code?
  constructor
  · intro h
    split at h
    · next hbounds =>
      obtain rfl := Option.some.inj h
      rw [UInt16.toNat_ofNat']
      omega
    · cases h
  · intro h
    rw [if_pos ⟨by omega, by omega⟩, h, Int.toNat_natCast, UInt16.ofNat_toNat]

theorem isHttpStatus_iff {code : UInt16} :
    isHttpStatus code = true ↔ 100 ≤ code.toNat ∧ code.toNat ≤ 999 := by
  rw [isHttpStatus, Bool.and_eq_true, decide_eq_true_iff, decide_eq_true_iff,
    UInt16.le_iff_toNat_le, UInt16.lt_iff_toNat_lt]
  exact and_congr_right fun _ => Nat.lt_succ_iff

/-- The envelope's own status is shown if it has three digits. -/
theorem httpStatus_of_mem_range (h : 100 ≤ e.status.toInt ∧ e.status.toInt ≤ 999) :
    (e.httpStatus : Int) = e.status.toInt := by
  obtain ⟨code, hcode⟩ : ∃ code : UInt16, e.status.toInt = code.toNat :=
    ⟨UInt16.ofNat e.status.toInt.toNat, by rw [UInt16.toNat_ofNat']; omega⟩
  have hstatus : isHttpStatus code = true := isHttpStatus_iff.mpr (by omega)
  rw [httpStatus, code?_eq_some_iff.mpr hcode, Option.filter_some_pos hstatus, Option.getD_some,
    hcode]

/-- All other statuses are shown as 500. -/
theorem httpStatus_of_notMem_range (h : ¬ (100 ≤ e.status.toInt ∧ e.status.toInt ≤ 999)) :
    e.httpStatus = 500 := by
  have hnone : e.code?.filter isHttpStatus = none := by
    rw [Option.filter_eq_none_iff]
    intro code hcode hstatus
    have := code?_eq_some_iff.mp hcode
    have := isHttpStatus_iff.mp hstatus
    omega
  rw [httpStatus, hnone]
  rfl

/-- **An envelope is replied with the status that HTTP can show, and read back with its own.** The
status of the reply has three digits; it is the envelope's own exactly if that has three digits, and
500 for every other. The body is read back as the envelope, whatever the status of the reply. -/
theorem reply_shows_status_and_keeps_envelope (e : Envelope) :
    (100 ≤ e.reply.status ∧ e.reply.status ≤ 999) ∧
    ((e.reply.status : Int) = e.status.toInt ↔ 100 ≤ e.status.toInt ∧ e.status.toInt ≤ 999) ∧
    (¬ (100 ≤ e.status.toInt ∧ e.status.toInt ≤ 999) → e.reply.status = 500) ∧
    ofJson e.reply.body = .ok e := by
  have hbounds : 100 ≤ e.httpStatus ∧ e.httpStatus ≤ 999 := by
    by_cases h : 100 ≤ e.status.toInt ∧ e.status.toInt ≤ 999
    · have := httpStatus_of_mem_range h
      omega
    · rw [httpStatus_of_notMem_range h]
      decide
  refine ⟨hbounds, ?_, httpStatus_of_notMem_range, ofJson_toJson e⟩
  constructor
  · intro h
    have : (e.httpStatus : Int) = e.status.toInt := h
    omega
  · exact httpStatus_of_mem_range

/-- A status that is 200 modulo 2^16 is shown as 500, above the bounds as well as below zero. -/
theorem wrapped_status_shown_as_500 :
    ¬ (100 ≤ (Envelope.mk 65736 "\"").status.toInt ∧
      (Envelope.mk 65736 "\"").status.toInt ≤ 999) ∧
    (Envelope.mk 65736 "\"").reply.status = 500 ∧
    ofJson (Envelope.mk 65736 "\"").reply.body = .ok ⟨65736, "\""⟩ ∧
    (Envelope.mk (-65336) "").reply.status = 500 ∧
    ofJson (Envelope.mk (-65336) "").reply.body = .ok ⟨-65336, ""⟩ := by
  obtain ⟨-, -, habove, hbody⟩ := reply_shows_status_and_keeps_envelope ⟨65736, "\""⟩
  obtain ⟨-, -, hbelow, hbody'⟩ := reply_shows_status_and_keeps_envelope ⟨-65336, ""⟩
  exact ⟨by decide, habove (by decide), hbody, hbelow (by decide), hbody'⟩

end UserDirectory.Envelope
