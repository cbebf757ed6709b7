import BoardDebug.Bytes
import BoardDebug.Link

namespace BoardDebug.Hf2

/-- What runs on a device. -/
inductive BinMode where
  | bootloader
  | app
  | unknown (mode : UInt32)
deriving DecidableEq

def BinMode.ofWord (mode : UInt32) : BinMode :=
  if mode = 1 then bootloader else if mode = 2 then app else unknown mode

/-- What a device says about itself. -/
structure BinInfo where
  mode : BinMode
  pageSize : UInt32
  pageCount : UInt32
  maxMessageSize : UInt32
  /-- Newer devices add it. -/
  family : Option UInt32
deriving DecidableEq

def BinInfo.ofReply (reply : Bytes) : Except Malformed BinInfo := do
  let mode ← wordAt reply 0
  let pageSize ← wordAt reply 1
  let pageCount ← wordAt reply 2
  let maxMessageSize ← wordAt reply 3
  let family := (wordAt reply 4).toOption
  return { mode := .ofWord mode, pageSize, pageCount, maxMessageSize, family }

namespace Command

/-- Asks what runs on the device. -/
def binInfo : UInt32 := 0x0001

def resetIntoApp : UInt32 := 0x0003

def resetIntoBootloader : UInt32 := 0x0004

/-- Writes the flash page whose address starts the payload. -/
def writeFlashPage : UInt32 := 0x0006

/-- The payload is an address and the number of words to read. -/
def readWords : UInt32 := 0x0008

/-- The payload is an address, the number of words, and the words. -/
def writeWords : UInt32 := 0x0009

end Command

/-- What the host says to a device. The first failure ends it. -/
inductive Dialogue (α : Type) where
  | done (result : Except LinkError α)
  /-- A command that is answered. -/
  | ask (command : UInt32) (payload : Bytes) (next : Bytes → Dialogue α)
  /-- A command that is not. -/
  | tell (command : UInt32) (next : Dialogue α)
  /-- Waits for the device to come back after a reset. -/
  | reopen (next : Dialogue α)

namespace Dialogue

variable {α β : Type}

def bind (f : α → Dialogue β) : Dialogue α → Dialogue β
  | done (.ok a) => f a
  | done (.error error) => done (.error error)
  | ask command payload next => ask command payload fun reply => (next reply).bind f
  | tell command next => tell command (next.bind f)
  | reopen next => reopen (next.bind f)

instance : Monad Dialogue where
  pure a := done (.ok a)
  bind first next := first.bind next

def fail (error : LinkError) : Dialogue α := done (.error error)

/-- A reply that was read, or the failure of the dialogue. -/
def ofRead : Except Malformed α → Dialogue α
  | .ok a => done (.ok a)
  | .error what => fail (.malformed what)

def request (command : UInt32) (payload : Bytes) : Dialogue Bytes :=
  ask command payload fun reply => done (.ok reply)

def order (command : UInt32) : Dialogue Unit :=
  tell command (done (.ok ()))

def comeBack : Dialogue Unit :=
  reopen (done (.ok ()))

/-- The most words that one command moves. -/
def maxWords : Nat := 64

/-- Reads at most as many words as one command can. -/
def readChunk (address : UInt32) (count : Nat) : Dialogue (List UInt32) := do
  let reply ← request Command.readWords (wordBytes [address, .ofNat count])
  let words ← ofRead (BoardDebug.readWords reply)
  if words.length = count then return words
  else fail (.malformed (.wordCount (.ofNat count) address words.length))

/-- Reads words with at most `commands` commands. -/
def readFrom : (commands : Nat) → (address : UInt32) → (count : Nat) → Dialogue (List UInt32)
  | 0, _, _ => return []
  | commands + 1, address, count => do
    if count = 0 then return []
    else
      let first ← readChunk address (min count maxWords)
      let others ← readFrom commands (address + .ofNat (4 * maxWords)) (count - maxWords)
      return first ++ others

def readWords (address : UInt32) (count : Nat) : Dialogue (List UInt32) :=
  readFrom (count / maxWords + 1) address count

/-- Writes pieces that one command each can move, from `address` on. -/
def writeChunks (address : UInt32) : List (List UInt32) → Dialogue Unit
  | [] => return ()
  | words :: rest => do
    let _ ← request Command.writeWords
      (wordBytes [address, .ofNat words.length] ++ wordBytes words)
    writeChunks (address + .ofNat (4 * maxWords)) rest

def writeWords (address : UInt32) (words : List UInt32) : Dialogue Unit :=
  writeChunks address (chunks maxWords words)

def binInfo : Dialogue BinInfo := do
  let reply ← request Command.binInfo []
  ofRead (BinInfo.ofReply reply)

def writePages : List Page → Dialogue Unit
  | [] => return ()
  | page :: rest => do
    let _ ← request Command.writeFlashPage (Word.bytes (.ofNat page.address) ++ page.data)
    writePages rest

/-- Resets the device into its bootloader if something else runs on it. -/
def enterBootloader : Dialogue BinInfo := do
  let info ← binInfo
  if info.mode = .bootloader then return info
  else
    order Command.resetIntoBootloader
    comeBack
    binInfo

/-- Writes an image and starts it. -/
def flash (image : Image) : Dialogue Unit := do
  let info ← enterBootloader
  writePages (image.pages info.pageSize.toNat)
  order Command.resetIntoApp
  comeBack

/-- What is said for a request. -/
def ofRequest : (request : Request) → Dialogue request.Reply
  | .talk opcode payload => request opcode payload
  | .readWords address count => readWords address count.toNat
  | .writeWords address words => writeWords address words
  | .flash image => flash image
  | .queryHalt => fail (.unsupported "halt status queries")

end Dialogue

/-- A device that one can talk to. -/
class Channel (χ : Type) where
  ask : χ → (command : UInt32) → (payload : Bytes) → Except LinkError Bytes × χ
  tell : χ → (command : UInt32) → Except LinkError Unit × χ
  reopen : χ → Except LinkError Unit × χ

/-- Holds a dialogue with a device, up to the first failure. -/
def Dialogue.run {α χ : Type} [Channel χ] : Dialogue α → χ → Except LinkError α × χ
  | done result, channel => (result, channel)
  | ask command payload next, channel =>
    match Channel.ask channel command payload with
    | (.ok reply, channel) => (next reply).run channel
    | (.error error, channel) => (.error error, channel)
  | tell command next, channel =>
    match Channel.tell channel command with
    | (.ok (), channel) => next.run channel
    | (.error error, channel) => (.error error, channel)
  | reopen next, channel =>
    match Channel.reopen channel with
    | (.ok (), channel) => next.run channel
    | (.error error, channel) => (.error error, channel)

end BoardDebug.Hf2
