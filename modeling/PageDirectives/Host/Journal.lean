import PageDirectives.Host

set_option autoImplicit false

/-! # Journals

A page with a journal beside it. The journal takes no part in what the page does; actions made
for such a page can write down what they saw.
-/

namespace PageDirectives

structure Journaled (H L : Type) where
  host : H
  journal : List L := []

namespace Journaled

variable {H L : Type}

/-- Changes the page and keeps the journal. -/
def change (j : Journaled H L) (f : H → H) : Journaled H L := { j with host := f j.host }

/-- Adds an entry to the journal. -/
def note (j : Journaled H L) (entry : L) : Journaled H L :=
  { j with journal := j.journal ++ [entry] }

instance [Host H] : Host (Journaled H L) where
  depth j := Host.depth j.host
  select j := Host.select j.host
  isMatch j := Host.isMatch j.host
  parent? j := Host.parent? j.host
  next? j := Host.next? j.host
  previous? j := Host.previous? j.host
  isVisible j := Host.isVisible j.host
  setVisible j node visible := j.change fun h => Host.setVisible h node visible
  hasClass j := Host.hasClass j.host
  addClass j node c := j.change fun h => Host.addClass h node c
  removeClass j node c := j.change fun h => Host.removeClass h node c
  setStyle j node property value := j.change fun h => Host.setStyle h node property value
  setInnerHtml j node html :=
    (Host.setInnerHtml j.host node html).map fun host => { j with host }
  navigate j destination := j.change fun h => Host.navigate h destination
  scriptBlocks j := Host.scriptBlocks j.host
  fetch j url :=
    let (content, host) := Host.fetch j.host url
    (content, { j with host })
  injectScript j url := j.change fun h => Host.injectScript h url
  injectStylesheet j url := j.change fun h => Host.injectStylesheet h url

end Journaled

end PageDirectives
