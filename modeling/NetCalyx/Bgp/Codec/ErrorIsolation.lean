import NetCalyx.Bgp.Codec.Stream

/-!
# Which message the ignored errors belong to

The parsers only append to the errors they pass over. So what they note in a message
comes behind what was in the context before, and the result is the same whatever was
there (`fromWire_behind`).

The codec hands the errors out with a decoded message, and forgets them then. A message
that fails leaves what was noted in it, for the next message that does not.
`ownErrors_iff` says in which runs each message is returned with its own errors.
-/

namespace NetCalyx.Bgp
open Wire BgpParsingIgnoredErrors

namespace BgpParsingIgnoredErrors

variable (prior errs : BgpParsingIgnoredErrors)

/-- Errors noted behind others. -/
def behind : BgpParsingIgnoredErrors :=
  ⟨prior.nonUnicastWithdrawNlri ++ errs.nonUnicastWithdrawNlri,
    prior.nonUnicastUpdateNlri ++ errs.nonUnicastUpdateNlri,
    prior.capabilityErrors ++ errs.capabilityErrors,
    prior.pathAttrErrors ++ errs.pathAttrErrors⟩

theorem behind_default (prior : BgpParsingIgnoredErrors) : prior.behind .default = prior := by
  simp [behind, default]

/-- There is something before the errors exactly when there is more in all. -/
theorem behind_eq_right_iff {prior errs : BgpParsingIgnoredErrors} :
    prior.behind errs = errs ↔ prior = .default := by
  obtain ⟨withdraws, updates, capabilities, attributes⟩ := prior
  obtain ⟨_, _, _, _⟩ := errs
  simp [behind, default]

theorem behind_eq_default_iff {prior errs : BgpParsingIgnoredErrors} :
    prior.behind errs = .default ↔ prior = .default ∧ errs = .default := by
  obtain ⟨_, _, _, _⟩ := prior
  obtain ⟨_, _, _, _⟩ := errs
  simp only [behind, default, mk.injEq, List.append_eq_nil_iff]
  tauto

theorem noteWithdraw_behind (net : Ipv4Net) :
    (prior.behind errs).noteWithdraw net = prior.behind (errs.noteWithdraw net) := by
  simp [behind, noteWithdraw]

theorem noteUpdate_behind (net : Ipv4Net) :
    (prior.behind errs).noteUpdate net = prior.behind (errs.noteUpdate net) := by
  simp [behind, noteUpdate]

theorem noteCapability_behind (err : BgpCapabilityParsingError) :
    (prior.behind errs).noteCapability err = prior.behind (errs.noteCapability err) := by
  simp [behind, noteCapability]

theorem notePathAttr_behind (err : PathAttributeParsingError) :
    (prior.behind errs).notePathAttr err = prior.behind (errs.notePathAttr err) := by
  simp [behind, notePathAttr]

end BgpParsingIgnoredErrors

/-! ## The parsers only append -/

section Commutes

variable (prior : BgpParsingIgnoredErrors) (ctx : BgpParsingContext)

open BgpParsingIgnoredErrors in
theorem commutes_nonUnicastRoute (isUpdate : Bool) (net : Ipv4Net) :
    Commutes prior.behind (nonUnicastRoute ctx isUpdate net) := by
  have hupdate : Commutes prior.behind (StateParser.modify (·.noteUpdate net) :
      StateParser _ BgpUpdateMessageParsingError Unit) :=
    .modify fun errs => noteUpdate_behind prior errs net
  have hwithdraw : Commutes prior.behind (StateParser.modify (·.noteWithdraw net) :
      StateParser _ BgpUpdateMessageParsingError Unit) :=
    .modify fun errs => noteWithdraw_behind prior errs net
  have hpass : Commutes prior.behind
      (if (!isUpdate && !ctx.failOnNonUnicastWithdrawNlri) = true then do
        StateParser.modify (·.noteWithdraw net)
        return none
      else if (isUpdate && !ctx.failOnNonUnicastUpdateNlri) = true then do
        StateParser.modify (·.noteUpdate net)
        return none
      else .liftP (.fail (.invalidIpv4UnicastNetwork net)) :
        StateParser _ BgpUpdateMessageParsingError (Option Ipv4UnicastAddress)) := by
    apply Commutes.ite
    · exact hwithdraw.bind fun _ => .pure none
    · exact .ite (hupdate.bind fun _ => .pure none) (.liftP _)
  exact .ite (hupdate.bind fun _ => hpass) hpass

theorem commutes_parseRoute (addPath isUpdate : Bool) :
    Commutes prior.behind (parseRoute ctx addPath isUpdate) := by
  refine .bind (.liftP _) fun pathId => .bind (.liftP _) fun net => ?_
  split
  · exact .pure _
  · exact commutes_nonUnicastRoute prior ctx isUpdate _

theorem commutes_parseNlri (addPath isUpdate : Bool) :
    Commutes prior.behind (parseNlri ctx addPath isUpdate) :=
  .bind ((commutes_parseRoute prior ctx addPath isUpdate).repeatWhile _) fun _ => .pure _

variable (direction : MessageDirection)

theorem commutes_parsePathAttribute : Commutes prior.behind (parsePathAttribute ctx direction) := by
  intro errs buf
  unfold parsePathAttribute
  split
  · rfl
  · rfl
  · split
    · rfl
    · split
      · simp only [notePathAttr_behind]
      · rfl

theorem commutes_update : Commutes prior.behind (BgpUpdateMessage.fromWire ctx direction) := by
  have hattrs : Commutes prior.behind (parsePathAttributes ctx direction) :=
    .bind ((commutes_parsePathAttribute prior ctx direction).repeatWhile _) fun _ => .pure _
  refine .bind (.liftP _) fun withdrawnBuf => ?_
  refine .bind ((commutes_parseNlri prior ctx _ false).within withdrawnBuf) fun withdrawnRoutes => ?_
  refine .bind (.liftP _) fun pathAttributesBuf => ?_
  refine .bind (hattrs.within pathAttributesBuf) fun pathAttributes => ?_
  exact .bind (commutes_parseNlri prior ctx _ true) fun nlri => .pure _

theorem commutes_readCapability : Commutes prior.behind (readCapability ctx) := by
  refine .bind (.liftP _) fun parsed => ?_
  cases parsed with
  | ok capability => exact .pure _
  | error err =>
    have hnote : Commutes prior.behind (StateParser.modify (·.noteCapability err) :
        StateParser _ BgpParameterParsingError Unit) :=
      .modify fun errs => noteCapability_behind prior errs err
    exact hnote.bind fun _ => .pure none

theorem commutes_readParameter : Commutes prior.behind (BgpOpenMessageParameter.read ctx) := by
  refine .bind (.liftP _) fun paramType => ?_
  cases paramType with
  | capability =>
    refine .bind (.liftP _) fun capabilitiesBuf => ?_
    exact .bind (((commutes_readCapability prior ctx).repeatWhile _).within capabilitiesBuf)
      fun _ => .pure _
  | extendedLength => exact .liftP _

theorem commutes_readOpen : Commutes prior.behind (BgpOpenMessage.read ctx) := by
  refine .bind (.liftP _) fun _ => .bind (.liftP _) fun myAs => .bind (.liftP _) fun holdTime => ?_
  refine .ite (.liftP _) (.bind (.liftP _) fun bgpId => ?_)
  refine .ite (.liftP _) (.bind (.liftP _) fun paramsBuf => ?_)
  exact .bind ((((commutes_readParameter prior ctx).mapErr _).repeatWhile _).within paramsBuf)
    fun _ => .pure _

theorem commutes_parseBody (messageType : BgpMessageType) :
    Commutes prior.behind (BgpMessage.parseBody ctx direction messageType) := by
  cases messageType with
  | openMessage => exact .bind ((commutes_readOpen prior ctx).mapErr _) fun _ => .pure _
  | update => exact .bind ((commutes_update prior ctx direction).mapErr _) fun _ => .pure _
  | notification => exact .bind (.liftP _) fun _ => .pure _
  | keepAlive => exact .pure _
  | routeRefresh => exact .bind (.liftP _) fun _ => .pure _

theorem commutes_fromWire : Commutes prior.behind (BgpMessage.fromWire ctx direction) := by
  refine .bind (.liftP _) fun _ => .bind (.liftP _) fun ⟨length, content⟩ => .within ?_ content
  refine .bind (.liftP _) fun messageType => ?_
  refine .bind (commutes_parseBody prior ctx direction messageType) fun msg => ?_
  exact .bind (.liftP _) fun buf => .ite (.pure msg) (.liftP _)

end Commutes

/-- What a parse notes comes behind what was noted before, and the result is the same. -/
theorem fromWire_behind (prior : BgpParsingIgnoredErrors) (ctx : BgpParsingContext)
    (direction : MessageDirection) (buf : Octets) :
    BgpMessage.fromWire ctx direction prior buf =
      (prior.behind (BgpMessage.fromWire ctx direction .default buf).1,
        (BgpMessage.fromWire ctx direction .default buf).2) := by
  have h := commutes_fromWire prior ctx direction .default buf
  rwa [prior.behind_default] at h

/-! ## Runs of the codec -/

namespace BgpCodec

variable (codec : BgpCodec)

/-- The message at the front of the buffer, parsed from a context without errors. -/
def parseAlone (buf : Octets) :
    BgpParsingIgnoredErrors × Except (Err BgpMessageParsingError) (Octets × BgpMessage) :=
  BgpMessage.fromWire codec.nextCtx .inbound .default buf

/-- Each message of the run is returned with the errors noted when it is parsed alone.
Each call has its own buffer, so that the caller may go past a message that fails. -/
def OwnErrors : BgpCodec → List Call → Prop
  | _, [] => True
  | codec, c :: calls =>
    (∀ buf msg errors, c = .decode buf → (codec.decode buf).2.2 = some (.ok (msg, errors)) →
      errors = (codec.parseAlone buf).1) ∧
    OwnErrors (codec.call c).1 calls

/-- A message that can be read. -/
def Succeeds : Call → Prop
  | .decode buf => ∃ result, (codec.parseAlone buf).2 = .ok result
  | .encode _ => False

/-- A complete message that cannot be read, with errors that were passed over before. -/
def FailsNoting : Call → Prop
  | .decode buf => 19 ≤ buf.length ∧ messageLength buf ≤ buf.length ∧
    (∃ err, (codec.parseAlone buf).2 = .error err) ∧ (codec.parseAlone buf).1 ≠ .default
  | .encode _ => False

/-- Some message of the run can be read. -/
def SucceedsLater : BgpCodec → List Call → Prop
  | _, [] => False
  | codec, c :: calls => codec.Succeeds c ∨ SucceedsLater (codec.call c).1 calls

/-- No message that can be read comes behind one that fails with errors noted. -/
def FailsClean : BgpCodec → List Call → Prop
  | _, [] => True
  | codec, c :: calls =>
    (codec.FailsNoting c → ¬ SucceedsLater (codec.call c).1 calls) ∧
    FailsClean (codec.call c).1 calls

/-- What is returned with a message are the errors from before, and its own behind them. -/
theorem decode_returns_iff {codec : BgpCodec} {buf : Octets} {msg : BgpMessage}
    {errors : BgpParsingIgnoredErrors} :
    (codec.decode buf).2.2 = some (.ok (msg, errors)) ↔
      ∃ rest own, codec.parseAlone buf = (own, .ok (rest, msg)) ∧
        errors = codec.parsingErrors.behind own := by
  constructor
  · intro h
    have hdec : codec.decode buf =
        ((codec.decode buf).1, (codec.decode buf).2.1, some (.ok (msg, errors))) := by
      rw [← h]
    obtain ⟨-, hread⟩ := decode_eq_ok.mp hdec
    rw [fromWire_behind] at hread
    obtain ⟨rfl, hok⟩ := Prod.mk.inj hread
    exact ⟨_, _, Prod.ext rfl hok, rfl⟩
  · rintro ⟨rest, own, halone, rfl⟩
    have hread : BgpMessage.fromWire codec.nextCtx .inbound codec.parsingErrors buf =
        (codec.parsingErrors.behind own, .ok (rest, msg)) := by
      rw [fromWire_behind]
      unfold parseAlone at halone
      rw [halone]
    rw [decode_eq_ok.mpr ⟨rfl, hread⟩]

/-- What a call does to the errors: a message that is read takes them along, one that
fails adds its own, and everything else leaves them. -/
theorem call_errors (c : Call) :
    codec.Succeeds c ∧ ¬ codec.FailsNoting c ∧ (codec.call c).1.parsingErrors = .default ∨
    ¬ codec.Succeeds c ∧ codec.FailsNoting c ∧ (codec.call c).1.parsingErrors ≠ .default ∨
    ¬ codec.Succeeds c ∧ ¬ codec.FailsNoting c ∧
      (codec.call c).1.parsingErrors = codec.parsingErrors := by
  cases c with
  | encode msg => exact .inr (.inr ⟨not_false, not_false, rfl⟩)
  | decode buf =>
    have halone := fromWire_behind codec.parsingErrors codec.nextCtx .inbound buf
    by_cases hcomplete : 19 ≤ buf.length ∧ messageLength buf ≤ buf.length
    · simp only [Succeeds, FailsNoting, parseAlone, hcomplete.1, hcomplete.2, true_and, call,
        decode, if_true, if_neg (Nat.not_lt.mpr hcomplete.2), halone]
      rcases BgpMessage.fromWire codec.nextCtx .inbound .default buf with ⟨own, err | ⟨rest, msg⟩⟩
      · by_cases hown : own = .default
        · refine .inr (.inr ⟨?_, fun h => h.2 hown, ?_⟩)
          · rintro ⟨_, h⟩
            cases h
          · rw [hown]
            exact codec.parsingErrors.behind_default
        · refine .inr (.inl ⟨?_, ⟨⟨err, rfl⟩, hown⟩, fun h => ?_⟩)
          · rintro ⟨_, h⟩
            cases h
          · exact hown (behind_eq_default_iff.mp h).2
      · refine .inl ⟨⟨_, rfl⟩, ?_, rfl⟩
        rintro ⟨⟨_, h⟩, -⟩
        cases h
    · have hdec : codec.decode buf = (codec, buf, none) := by
        unfold decode
        split
        · rename_i hmin
          rw [if_pos (Nat.lt_of_not_le fun hle => hcomplete ⟨hmin, hle⟩)]
        · rfl
      refine .inr (.inr ⟨?_, fun h => hcomplete ⟨h.1, h.2.1⟩, ?_⟩)
      · rintro ⟨⟨rest, msg⟩, hok⟩
        obtain ⟨hmin, hlen, -⟩ := fromWire_frame (Prod.ext rfl hok :
          BgpMessage.fromWire codec.nextCtx .inbound .default buf = (_, .ok (rest, msg)))
        exact hcomplete ⟨by omega, by omega⟩
      · rw [call, hdec]

/-- A call returns its own errors exactly when there are none from before, or it
returns no message. -/
theorem own_iff (c : Call) :
    (∀ buf msg errors, c = .decode buf → (codec.decode buf).2.2 = some (.ok (msg, errors)) →
      errors = (codec.parseAlone buf).1) ↔
    (codec.Succeeds c → codec.parsingErrors = .default) := by
  constructor
  · intro hown hsucceeds
    cases c with
    | encode msg => exact hsucceeds.elim
    | decode buf =>
      obtain ⟨⟨rest, msg⟩, hok⟩ := hsucceeds
      have h := hown buf msg _ rfl (decode_returns_iff.mpr ⟨rest, _, Prod.ext rfl hok, rfl⟩)
      exact behind_eq_right_iff.mp h
  · rintro hclean buf msg errors rfl hreturns
    obtain ⟨rest, own, halone, rfl⟩ := decode_returns_iff.mp hreturns
    rw [hclean ⟨_, congrArg Prod.snd halone⟩, halone]
    exact behind_eq_right_iff.mpr rfl

/-- Errors that are left over reach the next message that can be read. -/
theorem ownErrors_of_leftover {codec : BgpCodec} (h : codec.parsingErrors ≠ .default)
    (calls : List Call) : OwnErrors codec calls ↔ ¬ SucceedsLater codec calls := by
  induction calls generalizing codec with
  | nil => exact iff_of_true trivial not_false
  | cons c calls ih =>
    rw [OwnErrors, SucceedsLater, own_iff, not_or]
    rcases codec.call_errors c with ⟨hyes, -, -⟩ | ⟨hno, -, herrors⟩ | ⟨hno, -, herrors⟩
    · exact iff_of_false (fun hown => h (hown.1 hyes)) fun hnot => hnot.1 hyes
    · rw [ih herrors]
      exact and_congr_left' (iff_of_true (absurd · hno) hno)
    · rw [ih (herrors ▸ h)]
      exact and_congr_left' (iff_of_true (absurd · hno) hno)

/-- Where no message can be read, it does not matter what the others leave. -/
theorem failsClean_of_not_later {codec : BgpCodec} {calls : List Call}
    (h : ¬ SucceedsLater codec calls) : FailsClean codec calls := by
  induction calls generalizing codec with
  | nil => trivial
  | cons c calls ih =>
    rw [SucceedsLater, not_or] at h
    exact ⟨fun _ => h.2, ih h.2⟩

theorem ownErrors_of_clean {codec : BgpCodec} (h : codec.parsingErrors = .default)
    (calls : List Call) : OwnErrors codec calls ↔ FailsClean codec calls := by
  induction calls generalizing codec with
  | nil => exact Iff.rfl
  | cons c calls ih =>
    rw [OwnErrors, FailsClean, own_iff, and_iff_right fun _ => h]
    rcases codec.call_errors c with ⟨-, hno, herrors⟩ | ⟨-, hyes, herrors⟩ | ⟨-, hno, herrors⟩
    · rw [ih herrors, and_iff_right (absurd · hno)]
    · rw [ownErrors_of_leftover herrors]
      exact ⟨fun hnot => ⟨fun _ => hnot, failsClean_of_not_later hnot⟩, fun hclean => hclean.1 hyes⟩
    · rw [ih (herrors ▸ h), and_iff_right (absurd · hno)]

/-- From a new codec, each message is returned with its own errors exactly when no message
that can be read comes behind one that fails with errors noted. -/
theorem ownErrors_iff (asn4 : Bool) (ctx : BgpParsingContext) (calls : List Call) :
    OwnErrors (newFromCtx asn4 ctx) calls ↔ FailsClean (newFromCtx asn4 ctx) calls :=
  ownErrors_of_clean rfl calls

/-- An UPDATE that withdraws 224.0.0.0/4, and ends there. -/
def truncatedUpdateOctets : Octets := List.replicate 16 0xff ++ [0, 23, 2, 0, 2, 4, 0xe0]

/-- The route is noted, the message fails, and the KEEPALIVE behind it comes with the route. -/
theorem leftover_reappears :
    ¬ OwnErrors (newFromCtx true (new true).ctx)
      [.decode truncatedUpdateOctets, .decode keepAliveOctets] := by
  intro hown
  have hreturned := hown.2.1 keepAliveOctets .keepAlive _ rfl rfl
  exact absurd (congrArg nonUnicastWithdrawNlri hreturned)
    (List.cons_ne_nil _ _)

end BgpCodec

end NetCalyx.Bgp
