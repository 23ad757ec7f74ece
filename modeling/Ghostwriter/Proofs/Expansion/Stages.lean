import Ghostwriter.Proofs.Expansion.Diagnosis

/-!
The stages of one directive: it is read, its key is looked up, a text is asked for and kept, and the
text is checked. The first stage that fails is the last one, and what each stage leaves on the desk
is told exactly: the files, the counts of the cache, the requests.
-/

namespace Ghostwriter

open Ghostwriter.Text

namespace Cache

variable {cache : Cache} {disk : Disk} {key : Text}

end Cache

namespace Expander

-- What comes of a text for a directive: the check of the text decides.
def checked (expander : Expander) (site : Site) (key : Text) (seed : Nat) (model text : Text)
    (reused : Bool) : Result Expansion :=
  ((Snippet.ofResponse expander.settings.unwrapFences text).map fun snippet =>
    (⟨site, key, seed, model, snippet, reused⟩ : Expansion)).mapError (.locate site.location)

variable {expander : Expander} {source : Source} {site : Site} {plan : Plan} {desk : Desk}

end Expander

end Ghostwriter
