import BareProxy.Base.Run

/-!
# Two parties over a link

Two machines that exchange messages over a link that keeps their order. A turn is a call of one of them, which may send
a message, or the arrival of the next message at one of them; a run is any interleaving of turns.

A party refines another one when calls and arrivals have the same results, where the messages themselves may differ and
are related by their number in the order of sending. Two refinements make one of the whole link.
-/

namespace BareProxy

universe u

/-- A machine that can be called, which may send a message, and that takes messages. -/
structure Party (σ ι ο ε μ : Type u) where
  call : σ → ι → (ο × Option μ) × σ
  take : σ → μ → ε × σ

/-- Two parties and the messages under way to each of them. -/
structure Link (σ τ μ : Type u) where
  left : σ
  right : τ
  toLeft : List μ
  toRight : List μ

namespace Link

inductive Turn (ι κ : Type u)
  | callLeft (input : ι)
  | callRight (input : κ)
  | arriveLeft
  | arriveRight

/-- What a turn gives to the caller; nothing arrives when nothing is under way. -/
inductive Output (ο ε ο' ε' : Type u)
  | calledLeft (output : ο)
  | calledRight (output : ο')
  | arrivedLeft (event : Option ε)
  | arrivedRight (event : Option ε')

section Step

variable {σ τ ι κ ο ο' ε ε' μ : Type u} (party : Party σ ι ο ε μ) (other : Party τ κ ο' ε' μ)

/-- The link before anything was sent. -/
def start (left : σ) (right : τ) : Link σ τ μ := ⟨left, right, [], []⟩

def step (link : Link σ τ μ) : Turn ι κ → Output ο ε ο' ε' × Link σ τ μ
  | .callLeft input =>
    let ((output, message), left) := party.call link.left input
    (.calledLeft output, { link with left, toRight := link.toRight ++ message.toList })
  | .callRight input =>
    let ((output, message), right) := other.call link.right input
    (.calledRight output, { link with right, toLeft := link.toLeft ++ message.toList })
  | .arriveLeft =>
    match link.toLeft with
    | [] => (.arrivedLeft none, link)
    | message :: toLeft =>
      let (event, left) := party.take link.left message
      (.arrivedLeft (some event), { link with left, toLeft })
  | .arriveRight =>
    match link.toRight with
    | [] => (.arrivedRight none, link)
    | message :: toRight =>
      let (event, right) := other.take link.right message
      (.arrivedRight (some event), { link with right, toRight })

end Step

/-! ### What goes over a link -/

section History

variable {σ τ ι κ ο ο' ε ε' μ : Type u} (party : Party σ ι ο ε μ) (other : Party τ κ ο' ε' μ)

/-- The message that a turn sends to the left, and the one that arrives there. -/
def sentToLeft (link : Link σ τ μ) : Turn ι κ → List μ
  | .callRight input => (other.call link.right input).1.2.toList
  | _ => []

def arrivedAtLeft (link : Link σ τ μ) : Turn ι κ → List μ
  | .arriveLeft => link.toLeft.head?.toList
  | _ => []

def sentToRight (link : Link σ τ μ) : Turn ι κ → List μ
  | .callLeft input => (party.call link.left input).1.2.toList
  | _ => []

def arrivedAtRight (link : Link σ τ μ) : Turn ι κ → List μ
  | .arriveRight => link.toRight.head?.toList
  | _ => []

/-- The messages of a whole run. -/
def along (messages : Link σ τ μ → Turn ι κ → List μ) : Link σ τ μ → List (Turn ι κ) → List μ
  | _, [] => []
  | link, turn :: turns => messages link turn ++ along messages (step party other link turn).2 turns

theorem toLeft_step (link : Link σ τ μ) (turn : Turn ι κ) :
    link.toLeft ++ sentToLeft other link turn = arrivedAtLeft link turn ++ (step party other link turn).2.toLeft := by
  cases turn with
  | callLeft input => exact List.append_nil _
  | callRight input => rfl
  | arriveLeft =>
    obtain ⟨left, right, toLeft, toRight⟩ := link
    cases toLeft <;> exact List.append_nil _
  | arriveRight =>
    obtain ⟨left, right, toLeft, toRight⟩ := link
    cases toRight <;> exact List.append_nil _

theorem toRight_step (link : Link σ τ μ) (turn : Turn ι κ) :
    link.toRight ++ sentToRight party link turn = arrivedAtRight link turn ++ (step party other link turn).2.toRight := by
  cases turn with
  | callLeft input => rfl
  | callRight input => exact List.append_nil _
  | arriveLeft =>
    obtain ⟨left, right, toLeft, toRight⟩ := link
    cases toLeft <;> exact List.append_nil _
  | arriveRight =>
    obtain ⟨left, right, toLeft, toRight⟩ := link
    cases toRight <;> exact List.append_nil _

/-- Over a run, what was under way and what is sent is what arrives and what is under way then. -/
theorem along_fifo {sent arrived : Link σ τ μ → Turn ι κ → List μ} {queue : Link σ τ μ → List μ}
    (hstep : ∀ link turn, queue link ++ sent link turn = arrived link turn ++ queue (step party other link turn).2)
    (link : Link σ τ μ) (turns : List (Turn ι κ)) :
    queue link ++ along party other sent link turns =
      along party other arrived link turns ++ queue (stateAfter (step party other) link turns) := by
  induction turns generalizing link with
  | nil => exact List.append_nil _
  | cons turn turns ih =>
    rw [along, along, ← List.append_assoc, hstep, List.append_assoc, ih, List.append_assoc, stateAfter_cons]

/-- Messages arrive in the order in which they were sent. -/
theorem arrivedAtLeft_prefix (left : σ) (right : τ) (turns : List (Turn ι κ)) :
    along party other arrivedAtLeft (start left right) turns <+: along party other (sentToLeft other) (start left right) turns :=
  ⟨_, (along_fifo party other (toLeft_step party other) (start left right) turns).symm⟩

theorem arrivedAtRight_prefix (left : σ) (right : τ) (turns : List (Turn ι κ)) :
    along party other arrivedAtRight (start left right) turns <+:
      along party other (sentToRight party) (start left right) turns :=
  ⟨_, (along_fifo party other (toRight_step party other) (start left right) turns).symm⟩

/-- The turns of a run and what they gave. -/
def history (link : Link σ τ μ) (turns : List (Turn ι κ)) : List (Turn ι κ × Output ο ε ο' ε') :=
  turns.zip (outputsOf (step party other) link turns)

/-- Messages that can be told from the turns and from what they gave. -/
theorem along_eq_filterMap {messages : Link σ τ μ → Turn ι κ → List μ} {told : Turn ι κ × Output ο ε ο' ε' → Option μ}
    (h : ∀ link turn, messages link turn = (told (turn, (step party other link turn).1)).toList) (link : Link σ τ μ)
    (turns : List (Turn ι κ)) : along party other messages link turns = (history party other link turns).filterMap told := by
  induction turns generalizing link with
  | nil => rfl
  | cons turn turns ih =>
    show messages link turn ++ along party other messages (step party other link turn).2 turns =
      ((turn, (step party other link turn).1) :: history party other (step party other link turn).2 turns).filterMap told
    rw [ih, h, List.filterMap_cons]
    cases told (turn, (step party other link turn).1) <;> rfl

end History

end Link

/-! ### Refinement -/

section Refinement

variable {σ σ' ι ο ε μ μ' : Type u}

/-- What a call has sent, if anything, and how many messages that makes. -/
inductive SentBy (sends : Nat → μ → μ' → Prop) (sent : Nat) : Option μ → Option μ' → Nat → Prop
  | nothing : SentBy sends sent none none sent
  | message {message : μ} {message' : μ'} (h : sends sent message message') :
      SentBy sends sent (some message) (some message') (sent + 1)

/-- The first party does what the second one does: related states give the same results, and what the calls send is
related by its number. `sent` and `taken` count the messages so far. -/
structure Party.Refines (party : Party σ ι ο ε μ) (party' : Party σ' ι ο ε μ') (related : Nat → Nat → σ → σ' → Prop)
    (sends takes : Nat → μ → μ' → Prop) : Prop where
  call : ∀ {sent taken state state'}, related sent taken state state' → ∀ input,
    (party.call state input).1.1 = (party'.call state' input).1.1 ∧
      ∃ sent', SentBy sends sent (party.call state input).1.2 (party'.call state' input).1.2 sent' ∧
        related sent' taken (party.call state input).2 (party'.call state' input).2
  take : ∀ {sent taken state state' message message'}, related sent taken state state' → takes taken message message' →
    (party.take state message).1 = (party'.take state' message').1 ∧
      related sent (taken + 1) (party.take state message).2 (party'.take state' message').2

/-- Messages under way, from the next one to be taken to the next one to be sent. -/
inductive Numbered (sends : Nat → μ → μ' → Prop) : Nat → Nat → List μ → List μ' → Prop
  | nil (number : Nat) : Numbered sends number number [] []
  | cons {taken sent : Nat} {message : μ} {message' : μ'} {messages : List μ} {messages' : List μ'}
      (h : sends taken message message') (hrest : Numbered sends (taken + 1) sent messages messages') :
      Numbered sends taken sent (message :: messages) (message' :: messages')

/-- What is sent queues up behind what is under way. -/
theorem Numbered.append {sends : Nat → μ → μ' → Prop} {taken sent sent' : Nat} {messages : List μ}
    {messages' : List μ'} {message : Option μ} {message' : Option μ'} (h : Numbered sends taken sent messages messages')
    (hlast : SentBy sends sent message message' sent') :
    Numbered sends taken sent' (messages ++ message.toList) (messages' ++ message'.toList) := by
  induction h with
  | nil number =>
    cases hlast with
    | nothing => exact .nil _
    | message hmessage => exact .cons hmessage (.nil _)
  | cons hfirst hrest ih => exact .cons hfirst (ih hlast)

theorem Numbered.trans {sends : Nat → μ → μ' → Prop} {first next last : Nat} {messages more : List μ}
    {messages' more' : List μ'} (h : Numbered sends first next messages messages') (hmore : Numbered sends next last more more') :
    Numbered sends first last (messages ++ more) (messages' ++ more') := by
  induction h with
  | nil number => exact hmore
  | cons hfirst hrest ih => exact .cons hfirst (ih hmore)

variable {τ τ' κ ο' ε' : Type u} {party : Party σ ι ο ε μ} {party' : Party σ' ι ο ε μ'} {other : Party τ κ ο' ε' μ}
  {other' : Party τ' κ ο' ε' μ'} {related : Nat → Nat → σ → σ' → Prop} {related' : Nat → Nat → τ → τ' → Prop}
  {toLeft toRight : Nat → μ → μ' → Prop}

namespace Link

/-- Related parties with related messages under way. -/
def Related (related : Nat → Nat → σ → σ' → Prop) (related' : Nat → Nat → τ → τ' → Prop)
    (toLeft toRight : Nat → μ → μ' → Prop) (link : Link σ τ μ) (link' : Link σ' τ' μ') : Prop :=
  ∃ sentLeft takenLeft sentRight takenRight, related sentLeft takenLeft link.left link'.left ∧
    related' sentRight takenRight link.right link'.right ∧
    Numbered toLeft takenLeft sentRight link.toLeft link'.toLeft ∧
    Numbered toRight takenRight sentLeft link.toRight link'.toRight

theorem step_related (h : party.Refines party' related toRight toLeft) (h' : other.Refines other' related' toLeft toRight)
    {link : Link σ τ μ} {link' : Link σ' τ' μ'} (hlink : Related related related' toLeft toRight link link')
    (turn : Turn ι κ) :
    (step party other link turn).1 = (step party' other' link' turn).1 ∧
      Related related related' toLeft toRight (step party other link turn).2 (step party' other' link' turn).2 := by
  obtain ⟨sentLeft, takenLeft, sentRight, takenRight, hleft, hright, htoLeft, htoRight⟩ := hlink
  cases turn with
  | callLeft input =>
    obtain ⟨houtput, sent, hsent, hnext⟩ := h.call hleft input
    exact ⟨congrArg Output.calledLeft houtput, sent, takenLeft, sentRight, takenRight, hnext, hright, htoLeft,
      htoRight.append hsent⟩
  | callRight input =>
    obtain ⟨houtput, sent, hsent, hnext⟩ := h'.call hright input
    exact ⟨congrArg Output.calledRight houtput, sentLeft, takenLeft, sent, takenRight, hleft, hnext,
      htoLeft.append hsent, htoRight⟩
  | arriveLeft =>
    obtain ⟨left, right, waiting, waiting'⟩ := link
    obtain ⟨left', right', waiting'', waiting'''⟩ := link'
    dsimp only at hleft hright htoLeft htoRight
    cases htoLeft with
    | nil number => exact ⟨rfl, sentLeft, _, _, takenRight, hleft, hright, .nil _, htoRight⟩
    | cons hmessage hrest =>
      obtain ⟨hevent, hnext⟩ := h.take hleft hmessage
      exact ⟨congrArg (fun event => Output.arrivedLeft (some event)) hevent, sentLeft, _, sentRight, takenRight, hnext,
        hright, hrest, htoRight⟩
  | arriveRight =>
    obtain ⟨left, right, waiting, waiting'⟩ := link
    obtain ⟨left', right', waiting'', waiting'''⟩ := link'
    dsimp only at hleft hright htoLeft htoRight
    cases htoRight with
    | nil number => exact ⟨rfl, _, takenLeft, sentRight, _, hleft, hright, htoLeft, .nil _⟩
    | cons hmessage hrest =>
      obtain ⟨hevent, hnext⟩ := h'.take hright hmessage
      exact ⟨congrArg (fun event => Output.arrivedRight (some event)) hevent, sentLeft, takenLeft, sentRight, _, hleft,
        hnext, htoLeft, hrest⟩

/-- Whatever the interleaving, the link of refined parties gives the results of the link of the parties that they
refine. -/
theorem outputsOf_eq (h : party.Refines party' related toRight toLeft) (h' : other.Refines other' related' toLeft toRight)
    {left : σ} {left' : σ'} {right : τ} {right' : τ'} (hleft : related 0 0 left left') (hright : related' 0 0 right right')
    (turns : List (Turn ι κ)) :
    outputsOf (step party other) (start left right) turns = outputsOf (step party' other') (start left' right') turns :=
  outputsOf_simulation (fun _ _ turn hlink => step_related h h' hlink turn)
    ⟨0, 0, 0, 0, hleft, hright, .nil 0, .nil 0⟩ turns

end Link

end Refinement

end BareProxy
