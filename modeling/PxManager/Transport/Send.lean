import PxManager.Transport.TcpTunnel

/-!
# PxManager.Transport.Send

What `TcpTunnel.send` delivers, for every script of batches that arrive while it waits.

The credit of a script is the window it would leave with nothing sent. `send` always sends up to
the credit and waits there, so a batch that lowers the credit while it waits leaves a negative
window. `if not window` lets that pass for an open one: `send_data` is given a chunk that is no part
of the item, and raises, or sends an empty frame if it is empty. Otherwise the item is delivered
exactly once (`send_delivers_iff`).
-/

namespace PxManager.Transport

open PxManager.Core

namespace TcpTunnel

/-- A chunk that `send_data` may be given: not empty, and within the window and the frame size of
the moment. -/
structure SendCall.Fits (call : SendCall) : Prop where
  nonempty : call.data ≠ []
  window : (call.data.length : Int) ≤ call.outbound.window
  frame : call.data.length ≤ (call.outbound.maxFrame : Nat)

variable {κ : Type} {h2 : H2Connection κ} {item : Bytes} {outbound : Outbound} {sending : Sending κ}

/-- A call of `send` that has sent the first `offset` bytes. `outbound` is what the windows would
be if it had sent nothing. -/
structure Progress (h2 : H2Connection κ) (item : Bytes) (outbound : Outbound)
    (sending : Sending κ) : Prop where
  nonneg : 0 ≤ sending.offset
  outbound_eq : h2.outbound sending.self.connection =
    outbound.sent (min sending.offset.toNat item.length)
  calls : (sending.calls.map SendCall.data).flatten = item.take sending.offset.toNat
  fits : ∀ call ∈ sending.calls, call.Fits
  notEnded : sending.self.ended = false

/-- The chunk that the loop cuts off. -/
def Sending.chunk (h2 : H2Connection κ) (item : Bytes) (sending : Sending κ) : SendCall where
  data := slice item sending.offset
    (sending.offset + (h2.outbound sending.self.connection).frameWindow)
  outbound := h2.outbound sending.self.connection

theorem Progress.window_eq (h : Progress h2 item outbound sending)
    (hlt : sending.offset < item.length) :
    (h2.outbound sending.self.connection).window = outbound.window - sending.offset := by
  have hnonneg := h.nonneg
  rw [h.outbound_eq, Outbound.window_sent, Nat.min_eq_left (by omega), Int.toNat_of_nonneg hnonneg]

/-- While the window is open, the chunk is as long as one frame may be, or the rest of the item. -/
theorem Progress.chunk_data (h : Progress h2 item outbound sending)
    (hpos : 0 < (h2.outbound sending.self.connection).frameWindow) :
    (sending.chunk h2 item).data = (item.drop sending.offset.toNat).take
      (h2.outbound sending.self.connection).frameWindow.toNat := by
  rw [← slice_of_nonneg, Int.toNat_of_nonneg h.nonneg, Int.toNat_of_nonneg hpos.le]
  rfl

theorem Progress.chunk_fits (h : Progress h2 item outbound sending)
    (hlt : sending.offset < item.length)
    (hpos : 0 < (h2.outbound sending.self.connection).frameWindow) :
    (sending.chunk h2 item).Fits := by
  have hnonneg := h.nonneg
  have hlength := congrArg List.length (h.chunk_data hpos)
  rw [List.length_take, List.length_drop] at hlength
  have hframe : (h2.outbound sending.self.connection).frameWindow =
      min (h2.outbound sending.self.connection).window
        (h2.outbound sending.self.connection).maxFrame := rfl
  constructor
  · intro hnil
    rw [hnil, List.length_nil] at hlength
    omega
  · show ((sending.chunk h2 item).data.length : Int) ≤ (h2.outbound sending.self.connection).window
    omega
  · show (sending.chunk h2 item).data.length ≤
      ((h2.outbound sending.self.connection).maxFrame : Nat)
    omega

/-- The call after a chunk. -/
def Sending.after (h2 : H2Connection κ) (item : Bytes) (sending : Sending κ) (connection : κ) :
    Sending κ where
  self := { sending.self with connection }
  offset := sending.offset + (h2.outbound sending.self.connection).frameWindow
  calls := sending.calls ++ [sending.chunk h2 item]

/-- One turn of the loop hands over the next chunk. -/
theorem Progress.next (h : Progress h2 item outbound sending) (hlt : sending.offset < item.length)
    (hpos : 0 < (h2.outbound sending.self.connection).frameWindow) {connection : κ}
    (hok : h2.sendData sending.self.connection 1 (sending.chunk h2 item).data = .ok connection) :
    Progress h2 item outbound (sending.after h2 item connection) := by
  have hout := h2.sendData_sent _ _ _ hok
  have hnonneg := h.nonneg
  have hdata := h.chunk_data hpos
  have hlength := congrArg List.length hdata
  rw [List.length_take, List.length_drop] at hlength
  have hoffset : (sending.after h2 item connection).offset.toNat =
      sending.offset.toNat + (h2.outbound sending.self.connection).frameWindow.toNat :=
    Int.toNat_add hnonneg hpos.le
  refine ⟨Int.add_nonneg hnonneg hpos.le, ?_, ?_, ?_, h.notEnded⟩
  · show h2.outbound connection = _
    rw [hout, hlength, hoffset]
    generalize (h2.outbound sending.self.connection).frameWindow.toNat = size
    rw [h.outbound_eq, Outbound.sent_sent]
    congr 1
    omega
  · rw [hoffset, List.take_add, ← h.calls, ← hdata]
    simp [Sending.after]
  · intro call hcall
    rcases List.mem_append.mp hcall with hcall | hcall
    · exact h.fits call hcall
    · rw [List.mem_singleton.mp hcall]
      exact h.chunk_fits hlt hpos

/-- As far as the credit goes, the loop sends. -/
theorem sendLoop_of_le (h : Progress h2 item outbound sending)
    (hle : min sending.offset item.length ≤ outbound.window) :
    ∃ sending', sendLoop h2 item sending =
        (if (item.length : Int) ≤ outbound.window then .done else .waits, sending') ∧
      Progress h2 item outbound sending' ∧
      min sending'.offset item.length = min outbound.window item.length ∧
      sending'.self.pending = sending.self.pending := by
  fun_induction sendLoop h2 item sending with
  | case1 sending hlt out hzero hended =>
      rw [h.notEnded] at hended
      cases hended
  | case2 sending hlt out hzero hended =>
      rw [Outbound.frameWindow_eq_zero, h.window_eq hlt] at hzero
      rw [if_neg (by omega)]
      exact ⟨sending, rfl, h, by omega, rfl⟩
  | case3 sending hlt out hzero data error herror =>
      -- within the credit the window is not negative, and what fits it is accepted
      have hwindow := h.window_eq hlt
      have hpos : 0 < (h2.outbound sending.self.connection).frameWindow :=
        Outbound.frameWindow_pos (by omega) hzero
      have hfits := h.chunk_fits hlt hpos
      obtain ⟨connection, hok⟩ := h2.sendData_ok _ _ hfits.window hfits.frame
      cases herror.symm.trans hok
  | case4 sending hlt out hzero data connection hok next hends =>
      have hwindow := h.window_eq hlt
      have hpos : 0 < (h2.outbound sending.self.connection).frameWindow :=
        Outbound.frameWindow_pos (by omega) hzero
      exact absurd hends.1 (Int.not_lt.mpr hpos.le)
  | case5 sending hlt out hzero data connection hok next hends ih =>
      have hwindow := h.window_eq hlt
      have hpos : 0 < (h2.outbound sending.self.connection).frameWindow :=
        Outbound.frameWindow_pos (by omega) hzero
      have hframe : (h2.outbound sending.self.connection).frameWindow ≤
          (h2.outbound sending.self.connection).window := Int.min_le_left _ _
      refine ih (h.next hlt hpos hok) ?_
      show min (sending.offset + (h2.outbound sending.self.connection).frameWindow) item.length ≤
        outbound.window
      omega
  | case6 sending hge =>
      rw [if_pos (by omega)]
      exact ⟨sending, rfl, h, by omega, rfl⟩

/-! ### A negative window -/

/-- What was handed over stays handed over. -/
theorem calls_sendLoop (h2 : H2Connection κ) (item : Bytes) (sending : Sending κ) :
    sending.calls <+: (sendLoop h2 item sending).2.calls := by
  fun_induction sendLoop h2 item sending with
  | case4 sending hlt out hzero data connection hok next hends => exact List.prefix_append _ _
  | case5 sending hlt out hzero data connection hok next hends ih =>
      exact (List.prefix_append _ _).trans ih
  | _ => exact List.prefix_refl _

theorem calls_send (h2 : H2Connection κ) (item : Bytes) (sending : Sending κ)
    (script : List (List H2Event)) : sending.calls <+: (send h2 item sending script).2.calls := by
  induction script generalizing sending with
  | nil => exact calls_sendLoop h2 item sending
  | cons events script ih =>
      have hloop := calls_sendLoop h2 item sending
      rw [send]
      split
      · next sending' heq =>
          rw [heq] at hloop
          split
          · next self' _ => exact List.IsPrefix.trans hloop (ih { sending' with self := self' })
          · exact hloop
      · exact hloop

/-- While the window is negative, the loop raises or hands over a chunk that does not fit. -/
theorem sendLoop_of_neg (hlt : sending.offset < item.length)
    (hneg : (h2.outbound sending.self.connection).window < 0) :
    (∃ error, (sendLoop h2 item sending).1 = .raises error) ∨
      ∃ call ∈ (sendLoop h2 item sending).2.calls, ¬ call.Fits := by
  have hzero : (h2.outbound sending.self.connection).frameWindow ≠ 0 := by
    rw [ne_eq, Outbound.frameWindow_eq_zero]
    omega
  unfold sendLoop
  rw [if_pos hlt]
  dsimp only
  rw [if_neg hzero]
  split
  · exact .inl ⟨_, rfl⟩
  · next connection hok =>
      have hunfit : ¬ (sending.chunk h2 item).Fits := by
        intro hfits
        have hwindow := hfits.window
        simp only [Sending.chunk] at hwindow
        omega
      have hmem : sending.chunk h2 item ∈ (sending.after h2 item connection).calls :=
        List.mem_append_right _ (List.mem_singleton_self _)
      right
      split
      · exact ⟨_, hmem, hunfit⟩
      · exact ⟨_, (calls_sendLoop h2 item _).subset hmem, hunfit⟩

/-! ### The credit of a script -/

/-- The window after the first `k` batches, with nothing sent. -/
def credit (outbound : Outbound) (script : List (List H2Event)) (k : Nat) : Int :=
  (outbound.events (script.take k).flatten).window

theorem credit_zero (outbound : Outbound) (script : List (List H2Event)) :
    credit outbound script 0 = outbound.window := rfl

theorem credit_succ (outbound : Outbound) (events : List H2Event) (script : List (List H2Event))
    (k : Nat) : credit outbound (events :: script) (k + 1) =
      credit (outbound.events events) script k := by
  simp [credit, Outbound.events]

/-- Until the credit reaches the length of the item, no batch lowers it. -/
def NeverLowered (outbound : Outbound) (script : List (List H2Event)) (size : Nat) : Prop :=
  ∀ k < script.length, (∀ j ≤ k, credit outbound script j < size) →
    credit outbound script k ≤ credit outbound script (k + 1)

instance (outbound : Outbound) (script : List (List H2Event)) (size : Nat) :
    Decidable (NeverLowered outbound script size) :=
  inferInstanceAs (Decidable (∀ k < script.length, (∀ j ≤ k, credit outbound script j < size) →
    credit outbound script k ≤ credit outbound script (k + 1)))

theorem neverLowered_cons {outbound : Outbound} {events : List H2Event}
    {script : List (List H2Event)} {size : Nat} (hlt : outbound.window < size) :
    NeverLowered outbound (events :: script) size ↔
      outbound.window ≤ (outbound.events events).window ∧
        NeverLowered (outbound.events events) script size := by
  constructor
  · intro h
    refine ⟨?_, ?_⟩
    · have hstep := h 0 (Nat.zero_lt_succ _) fun j hj => by
        rw [Nat.le_zero.mp hj]
        exact hlt
      rwa [credit_succ, credit_zero, credit_zero] at hstep
    · intro k hk hsmall
      have hstep := h (k + 1) (Nat.succ_lt_succ hk)
      rw [credit_succ, credit_succ] at hstep
      refine hstep ?_
      intro j hj
      cases j with
      | zero => exact hlt
      | succ j => exact credit_succ .. ▸ hsmall j (Nat.le_of_succ_le_succ hj)
  · intro ⟨hfirst, hrest⟩ k hk hsmall
    cases k with
    | zero =>
        rw [credit_succ, credit_zero, credit_zero]
        exact hfirst
    | succ k =>
        rw [credit_succ, credit_succ]
        refine hrest k (Nat.lt_of_succ_lt_succ hk) ?_
        intro j hj
        exact credit_succ .. ▸ hsmall (j + 1) (Nat.succ_le_succ hj)

/-! ### Delivery -/

/-- The item went out exactly once, in chunks that fit, and nothing was raised. -/
def Delivered (item : Bytes) (outcome : Stop × Sending κ) : Prop :=
  outcome.1 = .done ∧ (outcome.2.calls.map SendCall.data).flatten = item ∧
    ∀ call ∈ outcome.2.calls, call.Fits

/-- A batch that neither ends the stream nor the connection. -/
def KeepsOpen (events : List H2Event) : Prop := ∀ event ∈ events, event.ends = false

instance (events : List H2Event) : Decidable (KeepsOpen events) :=
  inferInstanceAs (Decidable (∀ event ∈ events, event.ends = false))

theorem Progress.delivered (h : Progress h2 item outbound sending)
    (hlength : item.length ≤ sending.offset) : Delivered item (.done, sending) :=
  ⟨rfl, h.calls.trans (List.take_of_length_le (by omega)), h.fits⟩

/-- A call that meets a negative window does not deliver its item, whatever comes after that. -/
theorem not_delivered_of_neg (hlt : sending.offset < item.length)
    (hneg : (h2.outbound sending.self.connection).window < 0) (script : List (List H2Event)) :
    ¬ Delivered item (send h2 item sending script) := by
  rintro ⟨hdone, -, hfits⟩
  have hloop := sendLoop_of_neg hlt hneg
  cases script with
  | nil =>
      rcases hloop with ⟨error, hraises⟩ | ⟨call, hcall, hunfit⟩
      · cases hraises.symm.trans hdone
      · exact hunfit (hfits call hcall)
  | cons events script =>
      rw [send] at hdone hfits
      rcases hloop with ⟨error, hraises⟩ | ⟨call, hcall, hunfit⟩
      · split at hdone
        · next heq =>
            rw [heq] at hraises
            cases hraises
        · cases hraises.symm.trans hdone
      · refine hunfit (hfits call ?_)
        split
        · next sending' heq =>
            rw [heq] at hcall
            split
            · exact (calls_send h2 item _ script).subset hcall
            · exact hcall
        · exact hcall

/-- A batch that arrives while `send` waits changes what the windows would be. -/
theorem Progress.takenIn {self' : TcpTunnel κ} {events : List H2Event}
    (h : Progress h2 item outbound sending) (htaken : TakenIn sending.self events self')
    (hout : h2.outbound self'.connection = (h2.outbound sending.self.connection).events events)
    (hopen : KeepsOpen events) :
    Progress h2 item (outbound.events events) { sending with self := self' } := by
  refine ⟨h.nonneg, ?_, h.calls, h.fits, ?_⟩
  · rw [hout, h.outbound_eq, Outbound.events_sent]
  · rw [htaken.ended, h.notEnded, Bool.false_or, List.any_eq_false]
    intro event hevent
    rw [hopen event hevent]
    exact Bool.false_ne_true

/-- A call that has not sent the item yet delivers it iff its window is not negative, and no batch
lowers the credit before that suffices. -/
theorem Progress.send_delivered_iff {script : List (List H2Event)}
    (h : Progress h2 item outbound sending) (hoffset : sending.offset < item.length)
    (hopen : ∀ events ∈ script, KeepsOpen events)
    (hpending : sending.self.pending.length + (payload script.flatten).length ≤ maxPending)
    (hcredit : ∃ k ≤ script.length, (item.length : Int) ≤ credit outbound script k) :
    Delivered item (send h2 item sending script) ↔
      sending.offset ≤ outbound.window ∧ NeverLowered outbound script item.length := by
  induction script generalizing outbound sending with
  | nil =>
      obtain ⟨k, hk, hcredit⟩ := hcredit
      rw [Nat.le_zero.mp hk, credit_zero] at hcredit
      obtain ⟨sending', heq, h', hoffset', -⟩ := sendLoop_of_le h (by omega)
      rw [if_pos hcredit] at heq
      rw [send, heq]
      refine iff_of_true (h'.delivered (by omega)) ⟨by omega, ?_⟩
      intro k hk
      exact absurd hk (Nat.not_lt_zero k)
  | cons events script ih =>
      rcases Int.lt_or_le outbound.window sending.offset with hlt | hle
      · -- the window is negative
        have hwindow := h.window_eq hoffset
        exact iff_of_false (not_delivered_of_neg hoffset (by omega) _) (fun hle => by omega)
      obtain ⟨sending', heq, h', hoffset', hsame⟩ := sendLoop_of_le h (by omega)
      rw [send, heq]
      by_cases henough : (item.length : Int) ≤ outbound.window
      · -- the credit suffices, and what comes later does not matter
        rw [if_pos henough]
        refine iff_of_true (h'.delivered (by omega)) ⟨hle, ?_⟩
        intro k _ hsmall
        have hzero := hsmall 0 (Nat.zero_le k)
        rw [credit_zero] at hzero
        omega
      · -- it waits for the next batch, having sent all that the credit allows
        rw [if_neg henough, neverLowered_cons (by omega)]
        rw [List.flatten_cons, payload_append, List.length_append, ← hsame] at hpending
        rcases frames_cases h2 sending'.self events with
          ⟨self', -, hlarge⟩ | ⟨self', hframes, htaken, hout⟩
        · omega
        simp only [hframes]
        have hprogress := h'.takenIn htaken hout (hopen events List.mem_cons_self)
        -- the credit does not suffice yet, so the batch that makes it suffice is still to come
        have hcredit' : ∃ k ≤ script.length,
            (item.length : Int) ≤ credit (outbound.events events) script k := by
          obtain ⟨k, hk, hcredit⟩ := hcredit
          cases k with
          | zero => exact absurd hcredit henough
          | succ k => exact ⟨k, Nat.le_of_succ_le_succ hk, credit_succ .. ▸ hcredit⟩
        have hsent : sending'.offset = outbound.window := by omega
        have hopen' : ∀ events ∈ script, KeepsOpen events :=
          fun events hevents => hopen events (List.mem_cons_of_mem _ hevents)
        have hpending' : self'.pending.length + (payload script.flatten).length ≤ maxPending := by
          rw [htaken.pending, List.length_append]
          omega
        refine (ih hprogress (show sending'.offset < item.length by omega) hopen' hpending'
          hcredit').trans ?_
        rw [show ({ sending' with self := self' } : Sending κ).offset = sending'.offset from rfl,
          hsent, and_iff_right hle]

/-- **When `send` over HTTP/2 delivers.** While the peer ends nothing, no more than 131072 bytes
are pending, and the script opens enough window at some point, the item is delivered exactly once
iff it is empty, or the window is not negative at first and no batch that arrives while `send`
waits lowers the credit. -/
theorem send_delivers_iff (h2 : H2Connection κ) (self : TcpTunnel κ) (item : Bytes)
    (script : List (List H2Event)) (hended : self.ended = false)
    (hopen : ∀ events ∈ script, KeepsOpen events)
    (hpending : self.pending.length + (payload script.flatten).length ≤ maxPending)
    (hcredit : ∃ k ≤ script.length,
      (item.length : Int) ≤ credit (h2.outbound self.connection) script k) :
    Delivered item (send h2 item { self, offset := 0, calls := [] } script) ↔
      item = [] ∨ 0 ≤ (h2.outbound self.connection).window ∧
        NeverLowered (h2.outbound self.connection) script item.length := by
  have hstart : Progress h2 item (h2.outbound self.connection)
      { self, offset := 0, calls := [] } := by
    refine ⟨le_rfl, ?_, rfl, ?_, hended⟩
    · simp
    · intro call hcall
      cases hcall
  by_cases hitem : item = []
  · subst hitem
    have hloop : sendLoop h2 [] { self, offset := 0, calls := [] } =
        (.done, { self, offset := 0, calls := [] }) := by
      rw [sendLoop]
      exact if_neg (lt_irrefl 0)
    have hsend : send h2 [] { self, offset := 0, calls := [] } script =
        (.done, { self, offset := 0, calls := [] }) := by
      cases script with
      | nil => exact hloop
      | cons events script => rw [send, hloop]
    rw [hsend]
    exact iff_of_true (hstart.delivered le_rfl) (.inl rfl)
  · rw [or_iff_right hitem]
    have hpos : (0 : Int) < item.length := Int.natCast_pos.mpr (List.length_pos_iff.mpr hitem)
    exact hstart.send_delivered_iff hpos hopen hpending hcredit

/-- A tunnel whose peer allows 4 bytes, and does not end anything. -/
def fourBytes : TcpTunnel Outbound where
  connection := { connection := 65535, stream := 4, maxFrame := 16384 }
  pending := []
  ended := false

/-- INITIAL_WINDOW_SIZE goes from 4 to 6 while `send` waits, and then the window is opened. -/
theorem send_delivers_iff_raised_window :
    (send windowsOnly [1, 2, 3, 4, 5, 6, 7, 8] { self := fourBytes, offset := 0, calls := [] }
      [[.remoteSettingsChanged (some (4, 6)) none], [.windowUpdated 1 2]]).1 = .done := by
  have hdelivered := (send_delivers_iff windowsOnly fourBytes [1, 2, 3, 4, 5, 6, 7, 8]
    [[.remoteSettingsChanged (some (4, 6)) none], [.windowUpdated 1 2]] rfl (by decide)
    (by decide) ⟨2, by decide, by decide⟩).mpr (.inr ⟨by decide, by decide⟩)
  exact hdelivered.1

/-- INITIAL_WINDOW_SIZE goes from 4 to 2 while `send` waits. Although the window is opened to 8
bytes after that, `send` raises. -/
theorem send_raises_after_lowered_window :
    (∀ events ∈ [[H2Event.remoteSettingsChanged (some (4, 2)) none], [.windowUpdated 1 6]],
      KeepsOpen events) ∧
    credit fourBytes.connection
      [[.remoteSettingsChanged (some (4, 2)) none], [.windowUpdated 1 6]] 2 = 8 ∧
    (send windowsOnly [1, 2, 3, 4, 5, 6, 7, 8] { self := fourBytes, offset := 0, calls := [] }
      [[.remoteSettingsChanged (some (4, 2)) none], [.windowUpdated 1 6]]).1 =
        .raises (.h2 .flowControl) := by
  decide +kernel

end TcpTunnel

end PxManager.Transport
