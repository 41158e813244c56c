import Multiplexer.Backend

/-! Opening a poller. An explicit kind is opened as it is; the automatic kind takes the first of the
platform's candidates that opens. -/
namespace Multiplexer

abbrev Opener (β : Type) := Kind → Sys (Except Error β)

/-- The facilities of the platform; the other kinds do not exist on it. -/
def openNative (config : Config) : Opener Backend
  | .epoll => (Backend.epoll <$> Epoll.create config).run
  | .ioUring => (Backend.ring <$> Ring.create config).run
  | .select => (Backend.bitmap <$> BitmapSelect.create config).run
  | kind => pure (.error (.configuration kind))

/-- Tries the candidates in order, after `attempted` and the failure `last`. -/
def selectAmong {β : Type} (opener : Opener β) (attempted : List Kind) (last : Error) :
    List Kind → Sys (Except Error β)
  | [] => pure (.error (.noBackend attempted last))
  | kind :: rest => do
    match ← opener kind with
    | .ok opened => pure (.ok opened)
    | .error e =>
      note (.fellBack kind e)
      selectAmong opener (attempted ++ [kind]) e rest

/-- The first candidate that opens; the last failure stands for all if none does. -/
def selectBackend {β : Type} (opener : Opener β) (candidates : List Kind) :
    Sys (Except Error β) :=
  selectAmong opener [] (.configuration .auto) candidates

def openWith (opener : Opener Backend) (kind : Kind) : Sys (Except Error Backend) := do
  let opened ←
    if kind = .auto then selectBackend opener Kind.fallbackChain
    else if kind.isSupported then opener kind
    else pure (.error (.configuration kind))
  match opened with
  | .ok backend =>
    note (.created backend.kind)
    pure (.ok backend)
  | .error e => pure (.error e)

end Multiplexer
