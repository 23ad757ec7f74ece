import Ghostwriter.Text.Basic

/-!
The names that call for code, and the language in which each of them gives its instructions.
-/

namespace Ghostwriter

inductive Language where
  | english
  | japanese
  deriving DecidableEq, Repr

namespace Language

def code : Language → Text
  | .english => ['e', 'n']
  | .japanese => ['j', 'a']

def ofCode? (code : Text) : Option Language :=
  if code = Language.english.code then some .english
  else if code = Language.japanese.code then some .japanese
  else none

end Language

namespace EntryPoint

def englishNames : List String := [
  "take_care_of_the_rest", "do_it", "go_ahead", "try_it", "just_do_it", "give_it_a_go",
  "help_me", "lend_a_hand", "back_me_up", "save_me", "magic", "abracadabra", "wave_your_wand",
  "perform_miracle", "finish_it", "wrap_it_up", "get_it_done", "make_it_happen", "deliver_it"]

def japaneseNames : List String := [
  "あとは任せた", "やって", "これやって", "進めて", "頼む", "手を貸して", "助けて", "手伝って",
  "魔法を見せて", "奇跡を起こして", "何とかして", "仕上げて", "完成させて", "終わらせて",
  "最後まで頼む", "実現して", "作って", "やり遂げて"]

-- Every entry point with its language.
def table : List (Text × Language) :=
  englishNames.map (fun name => (name.toList, .english)) ++
    japaneseNames.map (fun name => (name.toList, .japanese))

def language? (name : Text) : Option Language := table.lookup name

def isName (name : Text) : Bool := (language? name).isSome

end EntryPoint

end Ghostwriter
