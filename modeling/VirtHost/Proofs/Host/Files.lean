import Mathlib.Logic.Function.Basic
import VirtHost.Proofs.Host.Run

/-! # Files of a host

* `Spares path request`: a request that has nothing to do with a file.
* `Host.Stores`: what a host with files does to them.
* `Stores.stays`: a file that is only ever written with the text that it holds.
* `storing`: a host that keeps files and gives any replies; `truncating`: one whose failed writes leave
  nothing.
* `joinPath_inj`: different names in a directory are different paths.
-/

namespace VirtHost
set_option autoImplicit false

namespace Host

/-! ## Paths -/

theorem joinPath_inj {base name name' : String} (h : name.toList.head? ≠ some '/')
    (h' : name'.toList.head? ≠ some '/') : joinPath base name = joinPath base name' ↔ name = name' := by
  have hkeep {s : List Char} (hs : s.head? ≠ some '/') : s.dropWhile (· = '/') = s := by
    cases s with
    | nil => rfl
    | cons c s =>
      have hc : c ≠ '/' := by simpa using hs
      simp [hc]
  constructor
  · intro heq
    rw [joinPath, joinPath, hkeep h, hkeep h'] at heq
    have hchars := List.append_cancel_left (String.ofList_injective heq)
    exact String.toList_injective (List.cons.inj hchars).2
  · rintro rfl
    rfl

/-! ## Requests and files -/

/-- Requests that have nothing to do with a file: reading files of another machine, writing other files,
and commands of `virsh`. -/
inductive Spares (path : String) : Request → Prop
  | readLocal (file : String) : Spares path (.readLocal file)
  | write {other : String} (text : String) (h : other ≠ path) : Spares path (.write other text)
  | virsh (arguments : String) (options : Options) :
    Spares path (.execute ("virsh " ++ arguments) options)

section
variable {σ : Type} {host : Host σ} {content : σ → String → Option String}
  {path text : String} {t : List Exchange} {s s' : σ}

/-- A host that keeps files: in each of its states a path has a content, if there is a file. What a
write leaves that fails is not said. -/
structure Stores (host : Host σ) (content : σ → String → Option String) : Prop where
  written : ∀ s path text, (host s (.write path text)).1 = .ok () →
    content (host s (.write path text)).2 path = some text
  spared : ∀ s path request, Spares path request →
    content (host s request).2 path = content s path

/-- A write of a file that fails leaves the file as it was. -/
def KeepsOnFailure (host : Host σ) (content : σ → String → Option String) (path : String) : Prop :=
  ∀ s text e, (host s (.write path text)).1 = .error e →
    content (host s (.write path text)).2 path = content s path

/-- A file that is only ever written with the text that it holds keeps that text, unless a write
fails that does not leave it alone. -/
theorem Stores.stays (hstores : Stores host content)
    (ht : ∀ e ∈ t, Spares path e.request ∨ e.request = .write path text)
    (hfailed : KeepsOnFailure host content path ∨ ∀ e, ⟨.write path text, .error e⟩ ∉ t)
    (hs : host.Answers s t s') (hcontent : content s path = some text) :
    content s' path = some text := by
  induction t generalizing s with
  | nil =>
    have hsame : s' = s := hs
    rw [hsame, hcontent]
  | cons e rest ih =>
    obtain ⟨hreply, hrest⟩ := hs
    refine ih (fun e he => ht e (List.mem_cons_of_mem _ he)) ?_ hrest ?_
    · refine hfailed.imp_right ?_
      intro h e he
      exact h e (List.mem_cons_of_mem _ he)
    · rcases ht e List.mem_cons_self with hspares | hwrite
      · rw [hstores.spared s path e.request hspares, hcontent]
      · obtain ⟨request, reply⟩ := e
        subst hwrite
        cases reply with
        | ok _ => exact hstores.written s path text hreply
        | error e =>
          rcases hfailed with hkeeps | hnone
          · rw [hkeeps s text e hreply, hcontent]
          · exact absurd List.mem_cons_self (hnone e)

end

/-! ## Any replies -/

/-- The files after an exchange: those before it, with what was written if it was, and with what a
failed write leaves of a file. -/
def storedBy (left : Option String → Option String) (files : String → Option String) :
    Exchange → String → Option String
  | ⟨.write path text, .ok _⟩ => Function.update files path (some text)
  | ⟨.write path _, .error _⟩ => Function.update files path (left (files path))
  | _ => files

variable (left : Option String → Option String)

/-- A host that gives the replies of some exchanges one after the other, and keeps files. -/
def storing : Host (List Exchange × (String → Option String)) := fun s request =>
  let (reply, rest) := replaying s.1 request
  (reply, rest, storedBy left s.2 ⟨request, reply⟩)

/-- A host that empties a file before it writes it, so that nothing is left of it if that fails. -/
def truncating : Host (List Exchange × (String → Option String)) :=
  storing fun _ => some ""

theorem stores_storing : Stores (storing left) Prod.snd where
  written s path text h := by
    have hstored : storedBy left s.2 ⟨.write path text, .ok ()⟩ path = some text :=
      Function.update_self path _ s.2
    rw [← hstored]
    exact congrArg (fun reply => storedBy left s.2 ⟨.write path text, reply⟩ path) h
  spared s path request h := by
    cases h with
    | readLocal file => rfl
    | @write other text h =>
      have hstored (reply : Except Error Unit) :
          storedBy left s.2 ⟨.write other text, reply⟩ path = s.2 path := by
        cases reply <;> exact Function.update_of_ne h.symm _ s.2
      exact hstored _
    | virsh arguments options => rfl

theorem keepsOnFailure_storing (path : String) : KeepsOnFailure (storing id) Prod.snd path := by
  intro s text e h
  have hstored : storedBy id s.2 ⟨.write path text, .error e⟩ path = s.2 path :=
    Function.update_self path _ s.2
  rw [← hstored]
  exact congrArg (fun reply => storedBy id s.2 ⟨.write path text, reply⟩ path) h

theorem answers_storing (t : List Exchange) (files : String → Option String) :
    Answers (storing left) (t, files) t ([], t.foldl (storedBy left) files) := by
  induction t generalizing files with
  | nil => rfl
  | cons e rest ih =>
    have hreply : replaying (e :: rest) e.request = (e.reply, rest) := by
      simp [replaying]
    refine ⟨?_, ?_⟩
    · simp [storing, hreply]
    · simpa [storing, hreply] using ih (storedBy left files e)

/-- Nothing is left of the last file that the truncating host should have written. -/
theorem exists_answers_truncating (t : List Exchange) (files : String → Option String)
    (path text : String) (error : Error) : ∃ s',
      Answers truncating (t ++ [⟨.write path text, .error error⟩], files)
        (t ++ [⟨.write path text, .error error⟩]) s' ∧ s'.2 path = some "" := by
  refine ⟨_, answers_storing _ _ files, ?_⟩
  rw [List.foldl_append]
  exact Function.update_self path _ _

end Host
end VirtHost
