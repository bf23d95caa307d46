import ConsoleReplay.Dialect.RouterOs
import ConsoleReplay.Screen.Session
import ConsoleReplay.Session.Analysis
import ConsoleReplay.Session.Timeline

/-!
# The replayer

A replayer holds the settings, the dialect, the policy and the highlighter that
all sessions of one kind of device share.  It starts live sessions and parses
captured ones.

## Main definitions

* `Replayer` — what sessions of one kind of device share.
* `Replayer.ofSettings settings` — the replayer for RouterOS devices.
* `Replayer.liveSession`, `Replayer.parse`, `Replayer.parseMany`,
  `Replayer.summarize` — live and captured sessions.
-/

namespace ConsoleReplay

/-- What sessions of one kind of device share.  It holds nothing of a session, so one of them serves
any number. -/
structure Replayer where
  settings : Settings
  dialect : Dialect
  policy : Policy
  highlighter : Highlighter

namespace Replayer

/-- The replayer for RouterOS devices. -/
def ofSettings (settings : Settings) : Replayer where
  settings := settings
  dialect := .routerOs
  policy := .routerOs settings.thresholds
  highlighter := .ofDialect .routerOs

/-- The replayer for devices with another dialect.  The policy stays: it is about how a console
looks, not about its words. -/
def withDialect (r : Replayer) (d : Dialect) : Replayer :=
  { r with dialect := d, highlighter := .ofDialect d }

/-- The replayer with another policy. -/
def withPolicy (r : Replayer) (policy : Policy) : Replayer := { r with policy := policy }

/-- What the analysis of a session depends on. -/
def segmenter (r : Replayer) : Segmenter where
  dialect := r.dialect
  policy := r.policy
  highlighter := r.highlighter
  rowBytes := r.settings.thresholds.rowBytes

/-- A live session on a screen of the size that was set. -/
def liveSession (r : Replayer) : LiveSession :=
  .start r.settings.screen.width r.settings.screen.height

/-- The session that rows make up. -/
def parse (r : Replayer) (rows : List LogRow) : ParsedSession := r.segmenter.segment rows

/-- The sessions that lists of rows make up, one for each list.  The sessions do not know of each
other. -/
def parseMany (r : Replayer) (sessions : List (List LogRow)) : List ParsedSession :=
  sessions.map r.parse

/-- The summary of the session that rows make up. -/
def summarize (r : Replayer) (rows : List LogRow) : SessionSummary :=
  ConsoleReplay.summarize (r.parse rows).frames

end Replayer

end ConsoleReplay
