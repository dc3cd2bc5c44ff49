import SchemaCheck.CommandLine.Directory
import SchemaCheck.Proofs.Schema.Result

namespace SchemaCheck.CommandLine

/-- Programs that turn a state into a value and the next state. -/
class Acting (m : Type → Type) [Monad m] (σ : outParam Type) where
  run {α : Type} : m α → σ → α × σ
  run_pure {α : Type} (x : α) (s : σ) : run (pure x : m α) s = (x, s)
  run_bind {α β : Type} (a : m α) (k : α → m β) (s : σ) :
    run (a >>= k) s = run (k (run a s).1) (run a s).2
  run_map {α β : Type} (f : α → β) (a : m α) (s : σ) :
    run (f <$> a) s = (f (run a s).1, (run a s).2)

instance (σ : Type) : Acting (StateM σ) σ where
  run a s := a.run s
  run_pure _ _ := rfl
  run_bind _ _ _ := rfl
  run_map _ _ _ := rfl

instance : Acting BaseIO (Void IO.RealWorld) where
  run a w := ((a w).val, (a w).state)
  run_pure _ _ := rfl
  run_bind _ _ _ := rfl
  run_map _ _ _ := rfl

/-- What there is to read and to write in some state. Different paths may name one file. -/
structure View (F : Type) where
  input : String
  text : String → Except FileError String
  file : String → F
  content : F → Option ByteArray

section

variable {m : Type → Type} [Monad m] {σ F : Type} [Acting m σ]

/-- Reading changes no file, a text that is written is what its file holds then and no other file
changes, and a text that cannot be written changes none. -/
structure Behaves (system : System m) (view : σ → View F) : Prop where
  readInput (s : σ) : (Acting.run system.readInput s).1 = (view s).input
  view_readInput (s : σ) :
    view (Acting.run system.readInput s).2 = { view s with input := "" }
  readFile (path : String) (s : σ) :
    (Acting.run (system.readFile path) s).1 = (view s).text path
  view_readFile (path : String) (s : σ) : view (Acting.run (system.readFile path) s).2 = view s
  written (path text : String) (s : σ) :
    (Acting.run (system.writeFile path text) s).1 = .ok () →
      (view (Acting.run (system.writeFile path text) s).2).content ((view s).file path) =
        some text.toUTF8
  others (path text : String) (s : σ) (f : F) : f ≠ (view s).file path →
    (view (Acting.run (system.writeFile path text) s).2).content f = (view s).content f
  unwritten (path text : String) (s : σ) (error : FileError) :
    (Acting.run (system.writeFile path text) s).1 = .error error →
      (view (Acting.run (system.writeFile path text) s).2).content = (view s).content

end

namespace Files

variable {home p q : Place} {files after : Files} {path text : String}

end Files

namespace Directory

def view (home : Place) (d : Directory) : View Place where
  input := d.input
  text := d.files.read home
  file := Place.named home
  content p := (d.files.textAt? home p).map String.toUTF8

end Directory

end SchemaCheck.CommandLine
