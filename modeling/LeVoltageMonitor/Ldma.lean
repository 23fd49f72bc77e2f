import LeVoltageMonitor.Average

/- LDMA channel 0 as le_voltage_monitor.c programs it. A descriptor keeps the count field (the
   channel makes one transfer more than it holds), the done-interrupt bit, the link bit with its
   relative jump, and the destination as a word offset from `samplingBuffer`; descriptor
   addresses count descriptors from `descriptor`, at 0. Every descriptor waits for the channel's
   request from the IADC single FIFO. For the RAM after `descriptor`, which the link jump of 1
   loads after each session, that is a premise: a descriptor there that starts on load
   (STRUCTREQ) or a WRITE or SYNC descriptor is not modelled. -/

set_option autoImplicit false

namespace LeVoltageMonitor

structure Descriptor where
  xferCnt : Nat
  doneIfs : Bool
  link : Bool
  linkAddr : Int
  dstAddr : Nat
deriving DecidableEq, Repr

-- emlib's LDMA_DESCRIPTOR_LINKREL_P2M_WORD, not in the repository, as the LDMA reads it.
def ldmaDescriptorLinkrelP2mWord (dest count : Nat) (linkjmp : Int) : Descriptor :=
  { xferCnt := count - 1, doneIfs := false, link := true, linkAddr := linkjmp, dstAddr := dest }

def initLdma (descriptor : Descriptor) : Descriptor :=
  { descriptor with xferCnt := numOfSamples, doneIfs := true }

def ldmaDescriptor : Descriptor := initLdma (ldmaDescriptorLinkrelP2mWord 0 numOfSamples 1)

inductive Channel where
  | idle
  | running (addr : Int) (desc : Descriptor) (xferCnt dst : Nat)
deriving DecidableEq, Repr

def Channel.load (addr : Int) (desc : Descriptor) : Channel :=
  .running addr desc desc.xferCnt desc.dstAddr

def Channel.sessionArmed : Channel → Bool
  | .idle => false
  | .running addr _ _ _ => decide (addr = 0)

structure Transfer where
  dst : Nat
  next : Channel
  done : Bool

def Channel.request (fetch : Int → Descriptor) : Channel → Option Transfer
  | .idle => none
  | .running addr desc 0 dst =>
    some ⟨dst, if desc.link then Channel.load (addr + desc.linkAddr) (fetch (addr + desc.linkAddr))
      else .idle, desc.doneIfs⟩
  | .running addr desc (count + 1) dst => some ⟨dst, .running addr desc count (dst + 1), false⟩

@[simp] theorem load_session_armed (desc : Descriptor) :
    (Channel.load 0 desc).sessionArmed = true := rfl

@[simp] theorem idle_session_armed : Channel.idle.sessionArmed = false := rfl

theorem request_counting (fetch : Int → Descriptor) (addr : Int) (desc : Descriptor) (count dst : Nat) :
    (Channel.running addr desc (count + 1) dst).request fetch =
      some ⟨dst, .running addr desc count (dst + 1), false⟩ := rfl

theorem request_last (fetch : Int → Descriptor) (addr : Int) (desc : Descriptor) (dst : Nat)
    (linked : desc.link = true) :
    (Channel.running addr desc 0 dst).request fetch =
      some ⟨dst, Channel.load (addr + desc.linkAddr) (fetch (addr + desc.linkAddr)), desc.doneIfs⟩ := by
  simp [Channel.request, linked]

end LeVoltageMonitor
