import SwbtDaemon.Client.Proofs.PeerProofs

/-!
# Proofs: sessions with the daemon

What a session with the daemon does, whatever other clients and the daemon itself do between its
requests, and that it gives the lease back.
-/

namespace Swbt.DebugClient

open CString Json Written Ipc

/-! ## What the client finds in a response -/

section Find

variable [Platform] {response : Response}

/-- The client finds the type that the daemon wrote, and no other. -/
theorem responseContains_text (hversion : ∀ b ∈ Platform.versionString, PlainByte b)
    (hraw : response.Raw) (type : String) (htype : 0x22 ∉ bytes type) :
    responseContains response.text type = decide (bytes response.body.typeText = bytes type) := by
  have hpattern : bytes "\"type\":\"" ++ bytes type ++ bytes "\"" =
      pattern (bytes "type") (bytes type ++ [0x22]) := by
    rw [List.append_assoc]
    rfl
  rw [responseContains, hpattern, Bool.eq_iff_iff, contains_type_iff hversion hraw htype,
    decide_eq_true_iff]

/-- The client reads the string of a response with one member after its head. -/
theorem responseString_text (hraw : response.Raw) {key : String} {value : List UInt8}
    (hkey : SearchName (bytes key)) (hlength : (bytes key).length ≤ 59)
    (htype : bytes "type" ≠ bytes key) (hid : bytes "request_id" ≠ bytes key)
    (hvalue : 0x22 ∉ value) {outSize : Nat} (hsize : value.length < outSize)
    (hbody : response.body.fields = [stringField key value]) :
    responseString response.text (bytes key) outSize = some value := by
  obtain ⟨ids, hhead, hprinted⟩ := requestIdFields_printed hraw hid
  have hbefore : ∀ m ∈ stringField "type" (bytes response.body.typeText) :: ids,
      Hides (bytes key) [] m := by
    refine List.forall_mem_cons.2 ⟨?_, ?_⟩
    · exact hides_name hkey (by decide) (quote_not_mem_plain (plain_typeText _)) htype
    · exact fun m hm => (hprinted m hm).hides hkey List.mem_cons_self
  have hmember := string_bytes_append (bytes key) value (moreBytes [] ++ 0x7D :: [0x0A])
  have hfound : strstr response.text (pattern (bytes key) []) =
      some (pattern (bytes key) [] ++ (value ++ 0x22 :: (moreBytes [] ++ 0x7D :: [0x0A]))) := by
    rw [Response.text, Response.fields, hhead, hbody, ← hmember]
    exact strstr_member (hides_bare hkey (by decide) (by decide)) hbefore
      (hmember ▸ List.prefix_append _ _)
  have htake : (value ++ 0x22 :: (moreBytes [] ++ 0x7D :: [0x0A])).takeWhile (· != 0x22) =
      value := by
    rw [List.takeWhile_append_of_pos (fun b hb => by simpa using ne_of_mem_of_not_mem hb hvalue),
      List.takeWhile_cons_of_neg (by simp), List.append_nil]
  have hpattern : 0x22 :: (bytes key ++ [0x22, 0x3A, 0x22]) = pattern (bytes key) [] := rfl
  unfold responseString
  rw [if_neg (by omega), if_neg (by omega)]
  dsimp only
  rw [hpattern, hfound]
  dsimp only
  rw [List.drop_left, if_neg (by simp), htake, if_neg (by omega)]

end Find

/-! ## What the daemon does with a request -/

section Requests

variable [Platform] (control : Control) (clientId : UInt32)

/-- The response to a decoded request, and the control after it. -/
theorem handleLine_decoded {line : List UInt8} {command : Command}
    (hdecode : decodeCommand line = .ok command) :
    typedResponse control clientId line = (executeCommand control clientId command).1 ∧
      (handleLine control clientId line jsonResponseMax).2 =
        (executeCommand control clientId command).2 := by
  unfold typedResponse handleLine
  rw [hdecode, if_neg (by decide)]
  exact ⟨rfl, rfl⟩

theorem handleLine_hello :
    typedResponse control clientId helloRequest = ⟨some (bytes "h1"), .helloOk clientId⟩ ∧
      (handleLine control clientId helloRequest jsonResponseMax).2 = control :=
  handleLine_decoded control clientId decodeCommand_hello

/-- The error that a client is told when another one owns the controller. -/
def busyResponse : Response :=
  ⟨some (bytes "a1"), .error .ownerBusy (bytes "another client owns the controller")⟩

theorem handleLine_acquire_busy (hbusy : control.app.lease.hasOwner = true)
    (hother : control.app.lease.ownerClientId ≠ clientId) :
    typedResponse control clientId acquireRequest = busyResponse ∧
      (handleLine control clientId acquireRequest jsonResponseMax).2 = control := by
  have hacquire : control.acquireClient clientId = (.ownerBusy, control) := by
    unfold Control.acquireClient Control.onApp
    rw [Domain.acquire_of_busy hbusy hother]
    rfl
  obtain ⟨htyped, hcontrol⟩ := handleLine_decoded control clientId decodeCommand_acquire
  rw [htyped, hcontrol, executeCommand]
  dsimp only
  rw [hacquire]
  exact ⟨rfl, rfl⟩

theorem handleLine_acquire_free (hfree : control.app.lease.hasOwner = false) :
    typedResponse control clientId acquireRequest = ⟨some (bytes "a1"), .acquired clientId⟩ ∧
      (handleLine control clientId acquireRequest jsonResponseMax).2 =
        { control with app := (control.app.acquire clientId).2 } := by
  have hacquire : control.acquireClient clientId =
      (.ok, { control with app := (control.app.acquire clientId).2 }) := by
    unfold Control.acquireClient Control.onApp
    rw [Domain.acquire_of_free hfree]
    rfl
  obtain ⟨htyped, hcontrol⟩ := handleLine_decoded control clientId decodeCommand_acquire
  rw [htyped, hcontrol, executeCommand]
  dsimp only
  rw [hacquire]
  exact ⟨rfl, rfl⟩

/-- A release leaves no lease of the client, whatever the answer is. -/
theorem handleLine_release :
    (handleLine control clientId (releaseText (formatOwnerId clientId)) jsonResponseMax).2 =
      { control with app := (control.app.revoke .release clientId).2 } := by
  obtain ⟨-, hcontrol⟩ :=
    handleLine_decoded control clientId (decodeCommand_release clientId)
  have hmatch : commandOwnerMatchesClient { Command.init with
      type := .release
      requestId := some (bytes "r1")
      ownerClientId := some clientId } clientId = true := by
    simp [commandOwnerMatchesClient]
  rw [hcontrol, executeCommand]
  dsimp only
  rw [hmatch, if_neg (by simp)]
  split <;> rfl

end Requests

/-! ## The first requests -/

section First

variable [Platform] (hlen : Platform.versionString.length ≤ 512)
  (hversion : ∀ b ∈ Platform.versionString, PlainByte b) (config : Config) {peer : Peer}
  (hunread : peer.unread = [])

include hlen hversion hunread

/-- The greeting is answered. -/
theorem runIo_hello :
    runIo config Peer.io peer = runAcquire config Peer.io { peer.interleave with unread := [] } := by
  obtain ⟨htyped, hcontrol⟩ := handleLine_hello peer.interleave.control peer.clientId
  have hraw := typedResponse_raw peer.interleave.control peer.clientId helloRequest
  have hresponse := sendReceive_response peer isRequest_hello hlen hversion hunread
  rw [htyped] at hraw hresponse
  have htype : responseContains (Response.text ⟨some (bytes "h1"), .helloOk peer.clientId⟩)
      "hello_ok" = true := by
    rw [responseContains_text hversion hraw "hello_ok" (by decide)]
    exact decide_eq_true rfl
  have hstring : responseString (Response.text ⟨some (bytes "h1"), .helloOk peer.clientId⟩)
      (bytes "client_id") idSize = some (formatOwnerId peer.clientId) :=
    responseString_text hraw ⟨by decide, by decide, by decide, by decide⟩ (by decide) (by decide)
      (by decide) (quote_not_mem_plain (plain_formatOwnerId peer.clientId))
      (by rw [formatOwnerId_length]; decide) rfl
  unfold runIo
  rw [hresponse (by simp [Response.Silent]), hcontrol]
  dsimp only
  rw [htype, if_neg (by simp), hstring]

/-- A client that comes while another one owns the controller is told so, and stops. -/
theorem runAcquire_busy (hbusy : peer.interleave.control.app.lease.hasOwner = true)
    (hother : peer.interleave.control.app.lease.ownerClientId ≠ peer.clientId) :
    runAcquire config Peer.io peer =
      failed busyResponse.text { peer.interleave with unread := [] } := by
  obtain ⟨htyped, hcontrol⟩ :=
    handleLine_acquire_busy peer.interleave.control peer.clientId hbusy hother
  have hraw := typedResponse_raw peer.interleave.control peer.clientId acquireRequest
  have hresponse := sendReceive_response peer isRequest_acquire hlen hversion hunread
  rw [htyped] at hraw hresponse
  have htype : responseContains busyResponse.text "error" = true := by
    rw [responseContains_text hversion hraw "error" (by decide)]
    exact decide_eq_true rfl
  unfold runAcquire
  rw [hresponse (by simp [Response.Silent, busyResponse]), hcontrol]
  dsimp only
  rw [htype, if_pos rfl]

/-- A client that comes while nobody owns the controller goes on as its owner. -/
theorem runAcquire_free (hfree : peer.interleave.control.app.lease.hasOwner = false) :
    runAcquire config Peer.io peer =
      runOwner config Peer.io
        { peer.interleave with
          control := { peer.interleave.control with
            app := (peer.interleave.control.app.acquire peer.clientId).2 }
          unread := [] }
        (formatOwnerId peer.clientId) := by
  obtain ⟨htyped, hcontrol⟩ := handleLine_acquire_free peer.interleave.control peer.clientId hfree
  have hraw := typedResponse_raw peer.interleave.control peer.clientId acquireRequest
  have hresponse := sendReceive_response peer isRequest_acquire hlen hversion hunread
  rw [htyped] at hraw hresponse
  have herror : responseContains (Response.text ⟨some (bytes "a1"), .acquired peer.clientId⟩)
      "error" = false := by
    rw [responseContains_text hversion hraw "error" (by decide)]
    exact decide_eq_false (by simp only [ResponseBody.typeText]; decide)
  have htype : responseContains (Response.text ⟨some (bytes "a1"), .acquired peer.clientId⟩)
      "acquired" = true := by
    rw [responseContains_text hversion hraw "acquired" (by decide)]
    exact decide_eq_true rfl
  have hstring : responseString (Response.text ⟨some (bytes "a1"), .acquired peer.clientId⟩)
      (bytes "owner_id") idSize = some (formatOwnerId peer.clientId) :=
    responseString_text hraw ⟨by decide, by decide, by decide, by decide⟩ (by decide) (by decide)
      (by decide) (quote_not_mem_plain (plain_formatOwnerId peer.clientId))
      (by rw [formatOwnerId_length]; decide) rfl
  unfold runAcquire
  rw [hresponse (by simp [Response.Silent]), hcontrol]
  dsimp only
  rw [herror, if_neg (by simp), htype, if_neg (by simp), hstring]

end First

/-! ## The lease is given back -/

/-- No operation that comes between the requests acquires the lease for the client. -/
def Peer.Foreign (peer : Peer) : Prop :=
  ∀ ops ∈ peer.between, ∀ op ∈ ops, op ≠ .acquire peer.clientId

/-- The client does not hold the lease. -/
def Peer.Free (peer : Peer) : Prop := ¬ peer.control.app.lease.HeldBy peer.clientId

/-- A session ends without the lease, but for a success that keeps it. -/
def GivesBack (config : Config) (outcome : Outcome Peer) : Prop :=
  (outcome.result = 0 ∧ config.skipRelease = true) ∨ outcome.peer.Free

theorem Peer.Foreign.interleave {peer : Peer} (h : peer.Foreign) (hfree : peer.Free) :
    peer.interleave.Free ∧ peer.interleave.Foreign := by
  obtain ⟨control, clientId, unread, between⟩ := peer
  cases between with
  | nil => exact ⟨hfree, h⟩
  | cons ops between =>
    obtain ⟨hops, hbetween⟩ := List.forall_mem_cons.1 h
    have hstep : ∀ (app : Domain) op, ¬ app.lease.HeldBy clientId → op ≠ .acquire clientId →
        ¬ (app.step op).lease.HeldBy clientId := fun _ _ h hop => Domain.step_not_heldBy h hop
    have hsteps : Runs.AllSteps Domain.step (fun _ op => op ≠ .acquire clientId) control.app ops :=
      Runs.allSteps_of_forall (fun _ => hops) control.app
    exact ⟨Runs.run_invariant_of_allSteps hstep hfree hsteps, hbetween⟩

section Back

variable [Platform] (config : Config) (peer : Peer)

/-- The release of the client ends its lease, whatever came before. -/
theorem release_free :
    (sendReceive Peer.io peer (ioSendRelease (formatOwnerId peer.clientId))).2.Free ∧
      (sendReceive Peer.io peer (ioSendRelease (formatOwnerId peer.clientId))).2.clientId =
        peer.clientId := by
  have hline := isRequest_release peer.clientId
  have hsize : (formatOwnerId peer.clientId).length < idSize := by
    rw [formatOwnerId_length]
    decide
  have hid := sendReceive_clientId peer hline
  rw [ioSendRelease_eq hsize]
  refine ⟨?_, hid⟩
  rw [Peer.Free, hid, sendReceive_control peer hline, handleLine_release]
  exact Domain.revoke_not_heldBy _ _ _

theorem releaseBestEffort_free {peer : Peer} {clientId : UInt32} (h : peer.clientId = clientId) :
    (releaseBestEffort Peer.io peer (formatOwnerId clientId)).Free := by
  have hne : formatOwnerId clientId ≠ [] := List.ne_nil_of_length_pos (by
    rw [formatOwnerId_length]
    decide)
  rw [releaseBestEffort, if_neg hne, ← h]
  exact (release_free peer).1

theorem runRelease_givesBack (status : List UInt8) :
    GivesBack config
      (runRelease config Peer.io peer (formatOwnerId peer.clientId) status) := by
  have hfree := (release_free peer).1
  unfold runRelease
  by_cases hskip : config.skipRelease = true
  · rw [if_pos hskip]
    exact Or.inl ⟨rfl, hskip⟩
  · rw [if_neg hskip]
    rcases hsend : sendReceive Peer.io peer (ioSendRelease (formatOwnerId peer.clientId)) with
      ⟨_ | response, peer'⟩
    · rw [hsend] at hfree
      exact Or.inr hfree
    · rw [hsend] at hfree
      dsimp only
      split <;> exact Or.inr hfree

theorem runStatus_givesBack :
    GivesBack config (runStatus config Peer.io peer (formatOwnerId peer.clientId)) := by
  have hid := sendReceive_clientId peer isRequest_getStatus
  unfold runStatus
  rcases hsend : sendReceive Peer.io peer (some getStatusRequest) with ⟨_ | response, peer'⟩
  · rw [hsend] at hid
    exact Or.inr (releaseBestEffort_free hid)
  · rw [hsend] at hid
    dsimp only
    split
    · exact Or.inr (releaseBestEffort_free hid)
    · rw [← hid]
      exact runRelease_givesBack config peer' response

theorem runOwner_givesBack :
    GivesBack config (runOwner config Peer.io peer (formatOwnerId peer.clientId)) := by
  have hid := sendReceive_clientId peer
    (isRequest_setState peer.clientId config.state config.sequence)
  unfold runOwner
  rw [ioSendSetState_eq]
  rcases hsend : sendReceive Peer.io peer
    (some (requestLine peer.clientId config.state config.sequence)) with ⟨_ | response, peer'⟩
  · rw [hsend] at hid
    exact Or.inr (releaseBestEffort_free hid)
  · rw [hsend] at hid
    dsimp only
    split
    · exact Or.inr (releaseBestEffort_free hid)
    · rw [← hid]
      exact runStatus_givesBack config peer'

end Back

/-- **A session with the daemon gives the lease back**, whatever other clients and the daemon do
between its requests and however it fails; only a success of a client that was told to skip the
release keeps it. -/
theorem runIo_givesBack [Platform] (hlen : Platform.versionString.length ≤ 512)
    (hversion : ∀ b ∈ Platform.versionString, PlainByte b) (config : Config) (peer : Peer)
    (hunread : peer.unread = []) (hfree : peer.Free) (hforeign : peer.Foreign) :
    GivesBack config (runIo config Peer.io peer) := by
  obtain ⟨hfree₁, hforeign₁⟩ := hforeign.interleave hfree
  set greeted : Peer := { peer.interleave with unread := [] } with hgreeted
  have hgreetedFree : greeted.Free := hfree₁
  have hgreetedForeign : greeted.Foreign := hforeign₁
  obtain ⟨hfree₂, -⟩ := hgreetedForeign.interleave hgreetedFree
  rw [runIo_hello hlen hversion config hunread, ← hgreeted]
  by_cases hbusy : greeted.interleave.control.app.lease.hasOwner = true
  · rw [runAcquire_busy hlen hversion config rfl hbusy fun hid => hfree₂ ⟨hbusy, hid⟩]
    exact Or.inr hfree₂
  · rw [runAcquire_free hlen hversion config rfl (Bool.eq_false_iff.2 hbusy)]
    exact runOwner_givesBack config { greeted.interleave with
      control := { greeted.interleave.control with
        app := (greeted.interleave.control.app.acquire greeted.clientId).2 }
      unread := [] }

/-- Another client takes the controller between the greeting and the request for it. -/
theorem runIo_givesBack_overtaken :
    let _ : Platform := Platform.lp64
    let config : Config := ⟨1, State.neutral, 7, 0, true⟩
    ∃ app, Domain.init = .ok app ∧
      GivesBack config
        (runIo config Peer.io ⟨Control.init app none, 5, [], [[], [.acquire 3]]⟩) := by
  let _ : Platform := Platform.lp64
  obtain ⟨spi, hinit⟩ := Domain.init_ok
  have hforeign : ∀ ops ∈ [[], [Domain.Op.acquire 3]], ∀ op ∈ ops, op ≠ .acquire 5 := by simp
  exact ⟨_, hinit, runIo_givesBack (by decide) (plain_of_raw (by decide)) _ _ rfl
    (fun hheld => Bool.false_ne_true hheld.1) hforeign⟩

end Swbt.DebugClient
