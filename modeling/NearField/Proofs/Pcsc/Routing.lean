import NearField.Proofs.Noted
import NearField.Proofs.Pcsc.Capacity
import NearField.Proofs.Pcsc.Opcodes
import NearField.Simulated.ApduScript

/-!
# What a Feitian reader is given

Each exchange with a reader is a round, and `rounds` are those of a command.  They are none, one, or
one that loads a key and one that uses it (`Ran`), and which commands of the reader they are about
is settled by the opcode, the block and the payload (`route_routed`): a recoded command never goes
out as it is, and a refused one not at all.
-/

namespace NearField.Pcsc.Feitian

open Simulated

variable {σ : Type}

/-! ## Rounds -/

/-- One exchange with a reader: the command, the room for a reply, and what came of it. -/
structure Round where
  apdu : Bytes
  room : Nat
  outcome : Except Error Bytes

/-- A way to exchange commands that notes each round. -/
def noted (exchange : Exchange σ) : Exchange (Noted Round σ) := fun apdu room =>
  Noted.recording (Round.mk apdu room) (exchange apdu room)

/-- What the caller gets of a reply: none that there is no room for. -/
def settled (capacity : Nat) (outcome : Except Error Bytes) : Except Error Bytes :=
  outcome.bind fun reply => if reply.length ≤ capacity then .ok reply else .error .chip

/-- The rounds in which a reader is given a command, and what the caller gets.  No buffer is larger
than `maxSize`, but if a reply were it could not be wiped. -/
inductive Ran (capacity : Nat) :
    Except Error (Option Bytes × Bytes) → List Round → Except Error Bytes → Prop where
  | refused (e : Error) : Ran capacity (.error e) [] (.error e)
  | given (apdu : Bytes) (outcome : Except Error Bytes) :
      Ran capacity (.ok (none, apdu)) [⟨apdu, responseCapacity, outcome⟩]
        (settled capacity outcome)
  | notLoaded (load apdu : Bytes) (e : Error) :
      Ran capacity (.ok (some load, apdu)) [⟨load, responseCapacity, .error e⟩] (.error e)
  | notWiped (load apdu : Bytes) {reply : Bytes} (h : BoundedCopy.maxSize < reply.length) :
      Ran capacity (.ok (some load, apdu)) [⟨load, responseCapacity, .ok reply⟩] (.error .chip)
  | loaded (load apdu reply : Bytes) (outcome : Except Error Bytes) :
      Ran capacity (.ok (some load, apdu))
        [⟨load, responseCapacity, .ok reply⟩, ⟨apdu, responseCapacity, outcome⟩]
        (settled capacity outcome)

variable (exchange : Exchange σ)

/-- A command is exchanged once, with the largest room there is, and its reply settled behind that.
-/
theorem execute_run (apdu : Bytes) (capacity : Nat) (s : σ) :
    (execute exchange apdu capacity s).result =
        settled capacity (exchange apdu responseCapacity s).result ∧
      (execute exchange apdu capacity s).state = (exchange apdu responseCapacity s).state := by
  let receive (response : Bytes) : Op σ Bytes := do
    logBytes "feitian reader pcsc apdu received" response
    Act.require (response.length ≤ capacity) .chip
    return response
  have hrun : (execute exchange apdu capacity s).result =
        ((exchange apdu responseCapacity >>= receive) s).result ∧
      (execute exchange apdu capacity s).state =
        ((exchange apdu responseCapacity >>= receive) s).state := ⟨rfl, rfl⟩
  have hkeeps (response : Bytes) : Act.Keeps id (receive response) :=
    (Act.keeps_log _ _ _).bind fun _ => (Act.keeps_require _ _).bind fun _ => Act.keeps_pure _
  rw [hrun.1, hrun.2]
  refine ⟨Act.bind_result (fun response s => ?_) s, Act.keeps_after hkeeps s⟩
  refine (Act.log_bind _ _ _ _ _).1.trans ?_
  rw [require_bind]
  by_cases h : response.length ≤ capacity
  · rw [if_pos h, if_pos h]
    rfl
  · rw [if_neg h, if_neg h]
    rfl

/-- Wipes a reply that is not empty. -/
def wipeReply (reply : Bytes) : Op σ Unit :=
  if !reply.isEmpty then BoundedCopy.wipeOp reply else pure ()

/-- Wiping fails for replies that no buffer has room for, and leaves the reader alone. -/
theorem wipeReply_run (reply : Bytes) (s : σ) :
    (wipeReply reply s).result =
        (if reply.length ≤ BoundedCopy.maxSize then .ok () else .error .chip) ∧
      (wipeReply reply s).state = s := by
  cases reply with
  | nil => exact ⟨rfl, rfl⟩
  | cons first rest =>
    have hrun : wipeReply (first :: rest) s = BoundedCopy.wipeOp (first :: rest) s := rfl
    rw [hrun]
    by_cases hmax : (first :: rest).length ≤ BoundedCopy.maxSize
    · rw [BoundedCopy.wipeOp_of_wipe (BoundedCopy.wipe_of_ne_nil (List.cons_ne_nil _ _) hmax),
        if_pos hmax]
      exact ⟨rfl, rfl⟩
    · have hwipe : BoundedCopy.wipe (first :: rest) = .error .range := by
        rw [BoundedCopy.wipe, if_neg (by simp), if_pos (Nat.not_le.mp hmax)]
      rw [BoundedCopy.wipeOp, hwipe, if_neg hmax]
      exact ⟨rfl, rfl⟩

/-- The buffer of a key is short enough to be wiped, so wiping it is no step. -/
theorem goAhead_key (tx : Bytes) : goAhead exchange (some (keyCommand tx)) =
    exchange (keyCommand tx) responseCapacity >>= wipeReply := by
  have hmax : (keyCommand tx).length ≤ BoundedCopy.maxSize :=
    Nat.le_trans (length_keyCommand_le tx) (by decide)
  rw [goAhead, BoundedCopy.wipeOp_of_wipe
    (BoundedCopy.wipe_of_ne_nil (keyCommand_ne_nil tx) hmax)]
  exact Act.attempt_ofExcept_bind _ _

/-- A key that was taken is followed by a wipe of the reply, which may fail. -/
theorem goAhead_run (tx : Bytes) (s : σ) :
    let loaded := (exchange (keyCommand tx) responseCapacity s).result
    (goAhead exchange (some (keyCommand tx)) s).result = (loaded.bind fun reply =>
        if reply.length ≤ BoundedCopy.maxSize then .ok () else .error .chip) ∧
      (goAhead exchange (some (keyCommand tx)) s).state =
        (exchange (keyCommand tx) responseCapacity s).state := by
  intro loaded
  have hkeeps (reply : Bytes) : Act.Keeps id (wipeReply reply : Op σ Unit) :=
    fun s => (wipeReply_run reply s).2
  rw [goAhead_key]
  exact ⟨Act.bind_result (fun reply s => (wipeReply_run reply s).1) s, Act.keeps_after hkeeps s⟩

variable (tx : Bytes) (capacity : Nat) (w : σ)

/-- A key that is not loaded, or whose reply can not be wiped, is the end of it. -/
theorem goAhead_noted :
    let loaded := (exchange (keyCommand tx) responseCapacity w).result
    (goAhead (noted exchange) (some (keyCommand tx)) ⟨w, []⟩).result = (loaded.bind fun reply =>
        if reply.length ≤ BoundedCopy.maxSize then .ok () else .error .chip) ∧
      (goAhead (noted exchange) (some (keyCommand tx)) ⟨w, []⟩).state.notes =
        [⟨keyCommand tx, responseCapacity, loaded⟩] := by
  intro loaded
  obtain ⟨hresult, hstate⟩ := Noted.recording_run (Round.mk (keyCommand tx) responseCapacity)
    (exchange (keyCommand tx) responseCapacity) ⟨w, []⟩
  obtain ⟨hended, hleft⟩ := goAhead_run (noted exchange) tx ⟨w, []⟩
  rw [hended, hleft, noted, hresult, hstate]
  exact ⟨rfl, rfl⟩

/-- The exchange of a command is one round. -/
theorem execute_noted (apdu : Bytes) (n : Noted Round σ) :
    let outcome := (exchange apdu responseCapacity n.world).result
    (execute (noted exchange) apdu capacity n).result = settled capacity outcome ∧
      (execute (noted exchange) apdu capacity n).state.notes =
        n.notes ++ [⟨apdu, responseCapacity, outcome⟩] := by
  intro outcome
  obtain ⟨hresult, hstate⟩ := Noted.recording_run (Round.mk apdu responseCapacity)
    (exchange apdu responseCapacity) n
  obtain ⟨hended, hleft⟩ := execute_run (noted exchange) apdu capacity n
  rw [hended, hleft, noted, hresult, hstate]
  exact ⟨rfl, rfl⟩

/-- **A command that is routed runs in rounds**, none if it is refused. -/
theorem ran_route :
    let o := route (noted exchange) tx capacity ⟨w, []⟩
    Ran capacity (recoded tx) o.state.notes o.result := by
  intro o
  have ho : o = (Act.ofExcept (recoded tx) >>= fun p =>
      goAhead (noted exchange) p.1 >>= fun _ => execute (noted exchange) p.2 capacity) ⟨w, []⟩ :=
    congrFun (route_eq (noted exchange) tx capacity) _
  cases hrecoded : recoded tx with
  | error e =>
    rw [ho, hrecoded]
    exact .refused e
  | ok p =>
    obtain ⟨_ | load, apdu⟩ := p
    · have hrun : o = execute (noted exchange) apdu capacity ⟨w, []⟩ := by
        rw [ho, hrecoded]
        rfl
      obtain ⟨hresult, hnotes⟩ := execute_noted exchange capacity apdu ⟨w, []⟩
      rw [hrun, hresult, hnotes]
      exact .given apdu _
    · obtain rfl := recoded_eq_ok_some hrecoded
      let first := goAhead (noted exchange) (some (keyCommand tx))
      have hrun : o = (first >>= fun _ => execute (noted exchange) apdu capacity) ⟨w, []⟩ := by
        rw [ho, hrecoded]
        rfl
      obtain ⟨hresult, hnotes⟩ := goAhead_noted exchange tx w
      cases hloaded : (exchange (keyCommand tx) responseCapacity w).result with
      | error e =>
        rw [hloaded] at hresult hnotes
        have hfails : first.Fails ⟨w, []⟩ e _ := ⟨hresult, rfl⟩
        rw [hrun, (hfails.bind _).1, (hfails.bind _).2, hnotes]
        exact .notLoaded _ _ e
      | ok reply =>
        rw [hloaded] at hresult hnotes
        by_cases hmax : reply.length ≤ BoundedCopy.maxSize
        · have hyields : first.Yields ⟨w, []⟩ () _ := ⟨hresult.trans (if_pos hmax), rfl⟩
          obtain ⟨hended, hleft⟩ := execute_noted exchange capacity apdu (first ⟨w, []⟩).state
          rw [hrun, (hyields.bind _).1, (hyields.bind _).2, hended, hleft, hnotes]
          exact .loaded _ _ reply _
        · have hfails : first.Fails ⟨w, []⟩ .chip _ := ⟨hresult.trans (if_neg hmax), rfl⟩
          rw [hrun, (hfails.bind _).1, (hfails.bind _).2, hnotes]
          exact .notWiped _ _ (Nat.not_le.mp hmax)

/-! ## Exchanges side by side -/

section Simulates

variable {τ : Type} {R : σ → τ → Prop} {exchange : Exchange σ} {exchange' : Exchange τ}

/-- Wiping a buffer does not touch the reader. -/
theorem simulates_wipeOp (buffer : Bytes) : Act.Simulates R (BoundedCopy.wipeOp buffer)
    (BoundedCopy.wipeOp buffer) := by
  intro s t h
  unfold BoundedCopy.wipeOp
  cases BoundedCopy.wipe buffer <;> exact ⟨rfl, h⟩

variable (h : ∀ apdu room, Act.Simulates R (exchange apdu room) (exchange' apdu room))
include h

/-- A command is executed alike over ways to exchange that are alike. -/
theorem simulates_execute (apdu : Bytes) (capacity : Nat) :
    Act.Simulates R (execute exchange apdu capacity) (execute exchange' apdu capacity) := by
  refine (Act.simulates_log _ _ _).bind fun _ => (h _ _).bind fun response => ?_
  refine (Act.simulates_log _ _ _).bind fun _ => (Act.simulates_require _ _).bind fun _ => ?_
  exact Act.simulates_pure response

/-- So is a key that goes ahead. -/
theorem simulates_goAhead (load? : Option Bytes) :
    Act.Simulates R (goAhead exchange load?) (goAhead exchange' load?) := by
  cases load? with
  | none => exact Act.simulates_pure ()
  | some load =>
    refine (h _ _).attempt.bind fun loaded => (simulates_wipeOp _).bind fun _ => ?_
    refine (Act.simulates_ofExcept _).bind fun reply => ?_
    exact .ite (simulates_wipeOp _) (Act.simulates_pure ())

/-- So is what a command is recoded to. -/
theorem simulates_route (tx : Bytes) (capacity : Nat) :
    Act.Simulates R (route exchange tx capacity) (route exchange' tx capacity) := by
  rw [route_eq, route_eq]
  refine (Act.simulates_ofExcept _).bind fun p => ?_
  exact (simulates_goAhead h p.1).bind fun _ => simulates_execute h p.2 capacity

end Simulates

/-- The rounds of a command. -/
def rounds (exchange : Exchange σ) (tx : Bytes) (capacity : Nat) (w : σ) : List Round :=
  (route (noted exchange) tx capacity ⟨w, []⟩).state.notes

/-- Notes make no difference to what they are taken of. -/
theorem route_noted :
    (route exchange tx capacity w).result = (route (noted exchange) tx capacity ⟨w, []⟩).result ∧
      (route exchange tx capacity w).state =
        (route (noted exchange) tx capacity ⟨w, []⟩).state.world := by
  have halike (apdu : Bytes) (room : Nat) : Act.Simulates Noted.Around
      (noted exchange apdu room) (exchange apdu room) := Noted.simulates_recording _ _
  obtain ⟨hresult, hworld⟩ := simulates_route halike tx capacity ⟨w, []⟩ w rfl
  exact ⟨hresult.symm, hworld.symm⟩

/-! ## What a reader is given -/

/-- The block that a command of the reader is about: general authentication names it behind the
length byte, all others in front. -/
def blockOf? (apdu : Bytes) : Option UInt8 :=
  if apdu[1]? = some 0x86 then apdu[7]? else apdu[3]?

/-- What a reader is given for a command, and what the caller gets. -/
structure Routed (tx : Bytes) (capacity : Nat) (rounds : List Round)
    (result : Except Error Bytes) : Prop where
  /-- For a command that is refused the reader is given nothing. -/
  refused : ∀ e, refusal? tx = some e → rounds = [] ∧ result = .error e
  /-- A command with another opcode is exchanged once and as it is. -/
  plain : ∀ opcode args, tx = opcode :: args → opcode ∉ opcodes → tx.length ≤ maxPassThrough →
    ∃ outcome, rounds = [⟨tx, responseCapacity, outcome⟩]
  /-- A command that is recoded never goes out as it is, but as commands of the reader, and all but
  the one that loads a key name its block and hold its payload. -/
  recoded : ∀ opcode args, tx = opcode :: args → opcode ∈ opcodes → ∀ round ∈ rounds,
    round.apdu ≠ tx ∧ round.apdu.head? = some 0xFF ∧ (round.apdu[1]? ≠ some 0x82 →
      blockOf? round.apdu = args.head? ∧
        (opcode ∈ writes ++ valueOperations → round.apdu.drop 5 = args.tail))
  /-- It goes out once, except that a key is loaded first. -/
  once : ∀ opcode args, tx = opcode :: args → opcode ∈ opcodes → opcode ∉ authentications →
    refusal? tx = none → rounds.length = 1
  /-- A key is loaded first, and used exactly if it was taken. -/
  authenticated : ∀ opcode block args, tx = opcode :: block :: args → opcode ∈ authentications →
    6 ≤ args.length → ∃ loaded rest,
      rounds = ⟨loadCommand (args.take 6), responseCapacity, loaded⟩ :: rest ∧
        ((∃ e, loaded = .error e) ∧ rest = [] ∨ (∃ reply, loaded = .ok reply) ∧
          ∃ outcome, rest = [⟨authenticateCommand opcode block, responseCapacity, outcome⟩])
  /-- The caller gets the last reply, if there is room for it. -/
  answered : ∀ reply, result = .ok reply ↔
    reply.length ≤ capacity ∧ ∃ last, rounds.getLast? = some last ∧ last.outcome = .ok reply

/-- The caller gets a reply that came and has room. -/
theorem settled_eq_ok_iff {outcome : Except Error Bytes} {reply : Bytes} :
    settled capacity outcome = .ok reply ↔ reply.length ≤ capacity ∧ outcome = .ok reply := by
  cases outcome with
  | error e => simp [settled, Except.bind]
  | ok reply' =>
    simp only [settled, Except.bind, Except.ok.injEq]
    by_cases h : reply'.length ≤ capacity
    · grind
    · grind

/-- The commands of the reader are none of those that are recoded. -/
theorem ne_of_head? {apdu args : Bytes} {opcode : UInt8} (hhead : apdu.head? = some 0xFF)
    (h : opcode ∈ opcodes) : apdu ≠ opcode :: args := by
  rintro rfl
  obtain rfl : opcode = 0xFF := Option.some.inj hhead
  exact absurd h (by decide)

/-- An authentication is recoded. -/
theorem mem_opcodes_of_authentications {opcode : UInt8} (h : opcode ∈ authentications) :
    opcode ∈ opcodes :=
  List.mem_cons_of_mem _ (List.mem_append_left _ (List.mem_append_right _ h))

/-- An authentication hands no payload on. -/
theorem not_payload_of_authentications :
    ∀ opcode ∈ authentications, opcode ∉ writes ++ valueOperations := by
  decide +kernel

/-- What hands a payload on is recoded, and is no authentication. -/
theorem mem_opcodes_of_payload : ∀ opcode ∈ writes ++ valueOperations,
    opcode ∈ opcodes ∧ opcode ∉ authentications := by
  decide +kernel

section Routed

variable {capacity} {opcode block : UInt8} {args : Bytes}

/-- A command that is refused runs in no rounds. -/
theorem routed_refused {tx : Bytes} {e : Error} (h : refusal? tx = some e) :
    Routed tx capacity [] (.error e) where
  refused e' h' := ⟨rfl, congrArg Except.error (Option.some.inj (h.symm.trans h'))⟩
  plain opcode args htx hplain hlen := by
    subst htx
    rw [(Recodes.plain hplain hlen).refusal?_eq_none] at h
    cases h
  recoded := nofun
  once opcode args htx _ _ hnone := by
    rw [hnone] at h
    cases h
  authenticated opcode block args htx hkeyed hkey := by
    subst htx
    rw [(Recodes.authenticate hkeyed block hkey).refusal?_eq_none] at h
    cases h
  answered reply := by simp

/-- A command with another opcode runs in one round, and as it is. -/
theorem routed_plain (hplain : opcode ∉ opcodes) (hroom : (opcode :: args).length ≤ maxPassThrough)
    (outcome : Except Error Bytes) :
    Routed (opcode :: args) capacity [⟨opcode :: args, responseCapacity, outcome⟩]
      (settled capacity outcome) where
  refused e h := by
    rw [(Recodes.plain hplain hroom).refusal?_eq_none] at h
    cases h
  plain _ _ _ _ _ := ⟨outcome, rfl⟩
  recoded opcode' args' htx hopcode := by
    obtain ⟨rfl, -⟩ := List.cons.inj htx
    exact absurd hopcode hplain
  once _ _ _ _ _ _ := rfl
  authenticated opcode' block args' htx hkeyed := by
    obtain ⟨rfl, -⟩ := List.cons.inj htx
    exact absurd (mem_opcodes_of_authentications hkeyed) hplain
  answered reply := by simp [settled_eq_ok_iff]

/-- A command that becomes one of the reader that names its block and holds its payload. -/
theorem routed_given {apdu : Bytes} (hrecodes : Recodes (opcode :: args) (.ok (none, apdu)))
    (hopcode : opcode ∈ opcodes) (hunkeyed : opcode ∉ authentications)
    (hhead : apdu.head? = some 0xFF) (hblock : blockOf? apdu = args.head?)
    (hpayload : opcode ∈ writes ++ valueOperations → apdu.drop 5 = args.tail)
    (outcome : Except Error Bytes) :
    Routed (opcode :: args) capacity [⟨apdu, responseCapacity, outcome⟩]
      (settled capacity outcome) where
  refused e h := by
    rw [hrecodes.refusal?_eq_none] at h
    cases h
  plain opcode' args' htx hplain := by
    obtain ⟨rfl, -⟩ := List.cons.inj htx
    exact absurd hopcode hplain
  recoded opcode' args' htx _ := by
    obtain ⟨rfl, rfl⟩ := List.cons.inj htx
    rintro round hround
    obtain rfl := List.mem_singleton.mp hround
    exact ⟨ne_of_head? hhead hopcode, hhead, fun _ => ⟨hblock, hpayload⟩⟩
  once _ _ _ _ _ _ := rfl
  authenticated opcode' block args' htx hkeyed := by
    obtain ⟨rfl, -⟩ := List.cons.inj htx
    exact absurd hkeyed hunkeyed
  answered reply := by simp [settled_eq_ok_iff]

/-- A key is loaded, and used if that came to a good end. -/
theorem routed_authenticate (hkeyed : opcode ∈ authentications) (hkey : 6 ≤ args.length)
    {loaded result : Except Error Bytes} {rest : List Round}
    (hrest : (∃ e, loaded = .error e) ∧ rest = [] ∨ (∃ reply, loaded = .ok reply) ∧
      ∃ outcome, rest = [⟨authenticateCommand opcode block, responseCapacity, outcome⟩])
    (hanswered : ∀ reply, result = .ok reply ↔ reply.length ≤ capacity ∧
      ∃ last, (Round.mk (loadCommand (args.take 6)) responseCapacity loaded :: rest).getLast? =
        some last ∧ last.outcome = .ok reply) :
    Routed (opcode :: block :: args) capacity
      (⟨loadCommand (args.take 6), responseCapacity, loaded⟩ :: rest) result where
  refused e h := by
    rw [(Recodes.authenticate hkeyed block hkey).refusal?_eq_none] at h
    cases h
  plain opcode' args' htx hplain := by
    obtain ⟨rfl, -⟩ := List.cons.inj htx
    exact absurd (mem_opcodes_of_authentications hkeyed) hplain
  recoded opcode' args' htx hopcode := by
    obtain ⟨rfl, rfl⟩ := List.cons.inj htx
    rintro round hround
    rcases List.mem_cons.mp hround with rfl | hround
    · exact ⟨ne_of_head? rfl hopcode, rfl, fun h => absurd rfl h⟩
    · rcases hrest with ⟨-, rfl⟩ | ⟨-, outcome, rfl⟩
      · cases hround
      · obtain rfl := List.mem_singleton.mp hround
        exact ⟨ne_of_head? rfl hopcode, rfl, fun _ => ⟨rfl, fun hpayload =>
          absurd hpayload (not_payload_of_authentications opcode hkeyed)⟩⟩
  once opcode' args' htx _ hunkeyed := by
    obtain ⟨rfl, -⟩ := List.cons.inj htx
    exact absurd hkeyed hunkeyed
  authenticated opcode' block' args' htx _ _ := by
    simp only [List.cons.injEq] at htx
    obtain ⟨rfl, rfl, rfl⟩ := htx
    exact ⟨loaded, rest, rfl, hrest⟩
  answered := hanswered

/-- Rounds that a command ran in are what the reader was to be given for it, case by case as it is
recoded. -/
theorem Ran.routed {tx : Bytes} {rounds : List Round} {result : Except Error Bytes}
    (h : Ran capacity (recoded tx) rounds result)
    (hbuffer : ∀ round ∈ rounds, ∀ reply, round.outcome = .ok reply →
      reply.length ≤ BoundedCopy.maxSize) : Routed tx capacity rounds result := by
  have hrecodes := recodes tx
  generalize recoded tx = p at h hrecodes
  cases hrecodes with
  | refused hrefusal =>
    cases h
    exact routed_refused hrefusal
  | read block args =>
    have hbare : 0x30 ∉ writes ++ valueOperations := by decide
    cases h
    exact routed_given (.read block args) (by decide) (by decide) rfl rfl (absurd · hbare) _
  | write hwrite block hroom =>
    obtain ⟨hopcode, hunkeyed⟩ := mem_opcodes_of_payload _ (List.mem_append_left _ hwrite)
    cases h
    exact routed_given (.write hwrite block hroom) hopcode hunkeyed rfl rfl (fun _ => rfl) _
  | authenticate hkeyed block hkey =>
    cases h with
    | notLoaded _ _ e =>
      exact routed_authenticate hkeyed hkey (.inl ⟨⟨e, rfl⟩, rfl⟩) fun reply => by simp
    | notWiped _ _ hlong =>
      exact absurd (hbuffer _ (List.mem_singleton_self _) _ rfl) (Nat.not_le.mpr hlong)
    | loaded _ _ reply outcome =>
      refine routed_authenticate hkeyed hkey (.inr ⟨⟨reply, rfl⟩, outcome, rfl⟩) fun reply => ?_
      simp [settled_eq_ok_iff]
  | change hvalue hother block hroom =>
    have hrecodes := Recodes.change hvalue hother block hroom
    obtain ⟨hopcode, hunkeyed⟩ := mem_opcodes_of_payload _ (List.mem_append_right _ hvalue)
    cases h
    exact routed_given hrecodes hopcode hunkeyed rfl rfl (fun _ => rfl) _
  | store block hroom =>
    cases h
    exact routed_given (.store block hroom) (by decide) (by decide) rfl rfl (fun _ => rfl) _
  | plain hplain hroom =>
    cases h
    exact routed_plain hplain hroom _

end Routed

/-- **A Feitian reader is given what a command becomes, and nothing else**: see `Routed`.  That
holds for any reader, as long as no reply is larger than a buffer can be.  Where a command is
refused for its length nothing happens at all. -/
theorem route_routed (hbuffer : ∀ round ∈ rounds exchange tx capacity w, ∀ reply,
      round.outcome = .ok reply → reply.length ≤ BoundedCopy.maxSize) :
    Routed tx capacity (rounds exchange tx capacity w) (route exchange tx capacity w).result ∧
      ∀ e, refusal? tx = some e → route exchange tx capacity w = ⟨.error e, w, []⟩ := by
  refine ⟨?_, fun e h => ?_⟩
  · rw [(route_noted exchange tx capacity w).1]
    exact (ran_route exchange tx capacity w).routed hbuffer
  · rw [route_eq, recoded_eq_error_iff.mpr h]
    rfl

/-- A key is loaded and a block is authenticated with it, and the reader answers both. -/
theorem route_routed_authenticate :
    let tx : Bytes := [0x61, 0x07, 0xFF, 0xFF, 0xFF, 0xFF, 0xFF, 0xFF, 0xDE, 0xAD]
    let reader : ApduScript := { replies := [.ok [], .ok [0x90, 0x00]] }
    let o := route ApduScript.exchange tx 64 reader
    let rs := rounds ApduScript.exchange tx 64 reader
    rs = [⟨[0xFF, 0x82, 0x00, 0x01, 0x06, 0xFF, 0xFF, 0xFF, 0xFF, 0xFF, 0xFF], 258, .ok []⟩,
        ⟨[0xFF, 0x86, 0x00, 0x00, 0x05, 0x01, 0x00, 0x07, 0x61, 0x01], 258, .ok [0x90, 0x00]⟩] ∧
      (∀ round ∈ rs, ∀ reply, round.outcome = .ok reply → reply.length ≤ BoundedCopy.maxSize) ∧
      Routed tx 64 rs o.result ∧ ∀ e, refusal? tx = some e → o = ⟨.error e, reader, []⟩ := by
  intro tx reader o rs
  have hrounds : rs = [⟨loadCommand [0xFF, 0xFF, 0xFF, 0xFF, 0xFF, 0xFF], 258, .ok []⟩,
      ⟨authenticateCommand 0x61 0x07, 258, .ok [0x90, 0x00]⟩] := rfl
  have hbuffer : ∀ round ∈ rs, ∀ reply, round.outcome = .ok reply →
      reply.length ≤ BoundedCopy.maxSize := by
    rw [hrounds]
    simp [BoundedCopy.maxSize]
  exact ⟨hrounds, hbuffer, route_routed ApduScript.exchange tx 64 reader hbuffer⟩

end NearField.Pcsc.Feitian
