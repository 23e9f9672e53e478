import AccessStatus.Provider.Basic

/-!
# The directory of providers

The directory opens a provider for a slot when it is first asked for, hands the same one out until
the slot is closed, and then opens a fresh one. A closed provider can still be asked through a
handle taken earlier. Reports about the default network concern every slot and go through a worker
of the directory itself.
-/

namespace AccessStatus

/-- How a directory is set up. -/
structure Options where
  /-- Number of slots; the slots are those with a smaller index. -/
  slotCount : UInt8
  /-- What the name of every worker thread begins with. -/
  threadPrefix : String
  deriving DecidableEq

/-- Two slots. -/
instance : Inhabited Options := ⟨⟨2, "qns"⟩⟩

namespace Options

/-- Refuses options without slots or without a beginning for thread names. -/
def check (o : Options) : Except StatusError Unit :=
  if o.slotCount = 0 then .error (.config .noSlots)
  else if o.threadPrefix.isEmpty then .error (.config .emptyThreadPrefix)
  else .ok ()

/-- The name of a slot's worker. -/
def slotWorker (o : Options) (slot : SlotIndex) : String :=
  o.threadPrefix ++ "-slot" ++ Text.natural slot.value.toNat

/-- The name of the directory's own worker. -/
def networkWorker (o : Options) : String := o.threadPrefix ++ "-network"

/-- The inspection text. -/
def inspect (o : Options) : String :=
  Text.record "ProviderOptions"
    [("slot_count", Text.natural o.slotCount.toNat),
      ("thread_name_prefix", Text.quoted o.threadPrefix)]

end Options

/-- A provider that was handed out: the how manieth that was opened for its slot. -/
structure Handle where
  slot : SlotIndex
  generation : Nat
  deriving DecidableEq

/-- The providers opened for one slot, and whether the last of them is the one that is handed
out. -/
structure Bay where
  opened : List Provider
  isOpen : Bool

namespace Bay

/-- None was opened. -/
def empty : Bay := ⟨[], false⟩

/-- The provider that is handed out. -/
def current (b : Bay) : Option Provider := if b.isOpen then b.opened.getLast? else none

/-- Replaces the provider of a generation. -/
def put (b : Bay) (generation : Nat) (p : Provider) : Bay :=
  { b with opened := b.opened.set generation p }

/-- Closes the provider that is handed out and hands it out no more. -/
def close (b : Bay) : Bay × List SourceCall :=
  match b.current with
  | none => (b, [])
  | some p => ({ b.put (b.opened.length - 1) p.closed.1 with isOpen := false }, p.closed.2)

end Bay

/-- The providers of all slots, the monitor they share, and the configuration that everyone asks. -/
structure Directory where
  options : Options
  config : Config
  availability : AvailabilityMonitor
  bays : Table SlotIndex Bay
  isClosed : Bool

namespace Directory

/-- A directory without providers. -/
def build (options : Options) (config : Config) : Except StatusError Directory :=
  match options.check with
  | .error e => .error e
  | .ok _ => .ok ⟨options, config, .fresh, .empty, false⟩

/-- The providers opened for a slot. -/
def bay (d : Directory) (slot : SlotIndex) : Bay := (d.bays.get? slot).getD .empty

/-- The provider that a handle stands for. -/
def find? (d : Directory) (h : Handle) : Option Provider := (d.bay h.slot).opened[h.generation]?

/-- The slots whose provider is handed out, ascending. -/
def openSlots (d : Directory) : List SlotIndex :=
  (d.bays.entries.filter fun x => x.2.isOpen).map Prod.fst

/-- What can be asked of a directory. -/
inductive Op where
  /-- The provider of a slot. -/
  | provider (slot : SlotIndex)
  /-- Something of a provider that was handed out. -/
  | ask (h : Handle) (o : Provider.Op)
  /-- To take a report about the default network. -/
  | network (event : NetworkEvent)
  /-- To evaluate every slot with the configuration as it is now. -/
  | configChanged
  /-- To wait until everything posted was applied. -/
  | flush
  | closeSlot (slot : SlotIndex)
  | close
  /-- Something of the shared availability monitor directly. -/
  | availability (o : AvailabilityMonitor.Op)
  /-- A change of the configuration, of which nobody is told. -/
  | config (o : Config.Op)

/-- What a directory answers: a provider, or what providers and monitors answer. -/
inductive Answer where
  | provider (h : Handle)
  | plain (a : AccessStatus.Answer)
  deriving DecidableEq

/-- The result of one request: the directory after it, the answer, and what it set off. -/
structure Outcome where
  directory : Directory
  answer : Answer
  effects : Effects

/-- A refusal that changes nothing. -/
def refuse (d : Directory) (e : StatusError) : Outcome := ⟨d, .plain (.refused e), .none⟩

/-- Hands out the provider of a slot, opening one if none is handed out. -/
def provider (d : Directory) (slot : SlotIndex) : Outcome :=
  if d.options.slotCount ≤ slot.value then d.refuse (.invalidSlot slot d.options.slotCount)
  else if d.isClosed then d.refuse (.providerClosed slot)
  else
    let bay := d.bay slot
    if bay.isOpen then ⟨d, .provider ⟨slot, bay.opened.length - 1⟩, .none⟩
    else
      let opened := bay.opened ++ [.fresh slot (d.options.slotWorker slot)]
      ⟨{ d with bays := d.bays.set slot ⟨opened, true⟩ }, .provider ⟨slot, bay.opened.length⟩,
        .none⟩

/-- Asks a provider that was handed out. A handle that was never given out is asked in vain. -/
def ask (d : Directory) (live : Liveness) (h : Handle) (o : Provider.Op) : Outcome :=
  match d.find? h with
  | none => ⟨d, .plain .done, .none⟩
  | some p =>
    let result := p.step d.config.source live d.availability o
    ⟨{ d with
        bays := d.bays.set h.slot ((d.bay h.slot).put h.generation result.provider)
        availability := result.availability }, .plain result.answer, result.effects⟩

/-- Asks the shared availability monitor. -/
def onAvailability (d : Directory) (live : Liveness) (o : AvailabilityMonitor.Op) : Outcome :=
  let result := d.availability.step d.config.source live o
  ⟨{ d with availability := result.monitor }, .plain result.answer, .ofAvailability result.sent⟩

/-- The refusal of the directory's own worker. -/
def workerClosed (d : Directory) : StatusError := .dispatch (.closed d.options.networkWorker)

/-- Lets the directory's own worker ask the shared availability monitor. -/
def post (d : Directory) (live : Liveness) (o : AvailabilityMonitor.Op) : Outcome :=
  if d.isClosed then d.refuse d.workerClosed
  else { d.onAvailability live o with answer := .plain .accepted }

/-- The answer to a wish to wait for everything posted: the first provider handed out that is closed
makes it fail. -/
def flushed (d : Directory) : Except StatusError Unit :=
  if d.isClosed then .error d.workerClosed
  else (d.bays.values.filterMap Bay.current).forM Provider.flushed

/-- Closes the provider of a slot, if one is handed out. -/
def closeSlot (d : Directory) (slot : SlotIndex) : Outcome :=
  let bay := d.bay slot
  match bay.current with
  | none => ⟨d, .plain .done, .none⟩
  | some p =>
    let (next, calls) := bay.close
    ⟨{ d with
        bays := d.bays.set slot next
        availability := if p.isClosed then d.availability else d.availability.closeSlot slot },
      .plain .done, ⟨[], [], calls⟩⟩

/-- Closes every provider that is handed out, and the shared availability monitor. -/
def close (d : Directory) : Outcome :=
  if d.isClosed then ⟨d, .plain .done, .none⟩
  else
    ⟨{ d with
        bays := d.bays.mapEntries fun _ bay => bay.close.1
        availability := d.availability.close
        isClosed := true },
      .plain .done, ⟨[], [], d.bays.values.flatMap fun bay => bay.close.2⟩⟩

/-- Carries out one request. -/
def step (d : Directory) (live : Liveness) : Op → Outcome
  | .provider slot => d.provider slot
  | .ask h o => d.ask live h o
  | .network event => d.post live (.network event)
  | .configChanged => d.post live .configChanged
  | .flush => ⟨d, .plain (.ofExcept d.flushed), .none⟩
  | .closeSlot slot => d.closeSlot slot
  | .close => d.close
  | .availability o => d.onAvailability live o
  | .config o => ⟨{ d with config := d.config.step o }, .plain .done, .none⟩

/-- The inspection text. -/
def inspect (d : Directory) : String :=
  Text.record "ProviderRegistry"
    [("options", d.options.inspect), ("open_slots", Text.list (d.openSlots.map SlotIndex.inspect)),
     ("closed", Text.bool d.isClosed)]

end Directory

end AccessStatus
