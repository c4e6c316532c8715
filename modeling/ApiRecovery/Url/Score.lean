import ApiRecovery.Number.Binary64
import ApiRecovery.Text.Pattern
import ApiRecovery.Url.Host

/-!
# Scores of URLs

How likely a URL is to be the address of an application's own server. Features of the whole text and
of its host add to the score; analytics, advertisements, social networks, name spaces of schemas and
test hosts take away from it.
-/

namespace ApiRecovery

/-- Scores are rational numbers that binary floating-point numbers can hold. -/
abbrev Score := Rat

namespace Url

open Text (contains startsWith endsWith)

structure Feature where
  holds : String → Bool
  weight : Score

def occurring (s : String) (weight : Score) : Feature :=
  ⟨fun text => contains text s, weight⟩

def ending (s : String) (weight : Score) : Feature :=
  ⟨fun text => endsWith text s, weight⟩

def equal (s : String) (weight : Score) : Feature :=
  ⟨fun text => text == s, weight⟩

section Patterns

open Text.Pattern

def notNewline : Text.Pattern := chars (· != '\n')

def query : Text.Pattern :=
  all [text "?", plus notNewline, text "="]

def anchor : Text.Pattern :=
  cat (text "#") (chars fun c => c.isAlphanum || "_$-%".toList.contains c)

def version : Text.Pattern :=
  all [text "/v", plus (chars Char.isDigit), text "/"]

/-- A name space that is not told apart by case; the long s is another form of its letter. -/
def xmlConstants : Text.Pattern :=
  all ("javax.xml.xmlconstants".toList.map fun c =>
    chars fun d => d.toLower == c || (c == 's' && d == 'ſ'))

end Patterns

def textFeatures : List Feature :=
  [occurring "%s" (-20),
   ⟨fun s => [".png", ".jpg", ".jpeg", ".pdf"].any (endsWith s), -20⟩,
   ending "=" (-2),
   -- a path cannot be appended to a query
   ⟨query.endsText, -10⟩,
   ⟨query.occursIn, -5⟩,
   -- anchors are for documentation and support
   ⟨anchor.occursIn, -20.25⟩,
   ⟨version.occursIn, 4⟩,
   occurring "/api/" 4,
   occurring "callback" (-0.25),
   occurring "instagram.com/" (-40),
   -- pages to log in
   occurring "https://www.facebook.com" (-30),
   occurring "https://accounts.google.com" (-30),
   occurring "https://www.linkedin.com" (-30),
   occurring "https://login.live.com" (-30),
   occurring "https://www.paypal.com" (-30),
   occurring "https://twitter.com" (-30),
   occurring "https://login.yahoo.com" (-30),
   occurring "https://s3.amazonaws.com/android-beacon-library/android-distance.json" (-40)]

/-- The host of texts that have none. -/
def malformedHost : String := "malformedhostmalformedhost"

def hostFeatures : List Feature :=
  [ -- social networks and stores
   ending "facebook.com" (-50),
   ending "play.google.com" (-50),
   ending "fb.gg" (-15),
   -- analytics
   ending "digits.com" (-20),
   ending "app.adjust.com" (-50),
   ending "gdpr.adjust.com" (-50),
   ending "app.igodigital.com" (-30),
   ending "google-analytics.com" (-50),
   ending "cformanalytics.com" (-40),
   ending "emarsys.net" (-40),
   -- advertisements
   ending "googleadservices.com" (-20),
   ending "googlesyndication.com" (-20),
   ending "googleads.g.doubleclick.net" (-50),
   ending "doubleclick.net" (-10),
   -- reports of errors
   ending "overmind.datatheorem.com" (-40),
   ending "settings.crashlytics.com" (-50),
   ending "e.crashlytics.com" (-50),
   ending "crashlytics.com" (-10),
   -- examples and tests
   ending "localhost" (-50),
   ending "hostname" (-50),
   ending "127.0.0.1" (-50),
   ending "10.0.2.2" (-50),
   ending ".local" (-11),
   ending "example.com" (-50),
   occurring "not.existing.url" (-50),
   -- search engines and what belongs to them
   ending "android.com" (-20),
   ending "googleapis.com" (-20),
   ending "googletagmanager.com" (-20),
   ending "plus.google.com" (-50),
   ending "firebaseremoteconfig.googleapis.com" (-50),
   ending "google.com" (-50),
   ending "app-measurement.com" (-20),
   ending "csi.gstatic.com" (-30),
   -- name spaces and documentation
   ending "schemas.xmlsoap.org" (-20),
   ending "w3.org" (-20),
   ending "slf4j.org" (-20),
   ending "schemas.android.com" (-50),
   ending "schema.org" (-35),
   ending "xmlpull.org" (-35),
   ending "dashif.org" (-35),
   ending "ns.adobe.com" (-35),
   ⟨xmlConstants.endsText, -40⟩,
   ending "pay.cards" (-35),
   ending "tempuri.org" (-35),
   ending "tempuri.com" (-35),
   occurring "schemas.microsoft.com" (-35),
   -- other parties in general
   occurring "google" (-1.25),
   occurring "syndication" (-1.25),
   occurring "adservices" (-1.25),
   -- pages to log in
   ending "login.yahoo.com" (-10),
   ending "login.live.com" (-10),
   ending "accounts.google.com" (-10),
   -- templates and incomplete hosts
   occurring "%s" (-30),
   equal "" (-80),
   ending "www." (-80),
   ending "." (-5),
   equal "api.instagram.com" (-5),
   -- names of servers
   occurring "api" 5,
   occurring "app" 5,
   equal malformedHost (-70)]

def weigh (features : List Feature) (text : String) : Score :=
  Binary64.sum ((features.filter fun f => f.holds text).map (·.weight))

def malformedScore : Score := -30

/-- The score of a URL that begins at `bonus`. -/
def score (url : String) (bonus : Score) : Score :=
  let (start, host) := match host? url with
    | some host => (bonus, host)
    | none => (Binary64.add bonus malformedScore, malformedHost)
  Binary64.add (Binary64.add start (weigh textFeatures url)) (weigh hostFeatures host)

def settingsMarks : List (String × Score) :=
  [("buildconfig", 1.45), ("config", 0.10), ("environment", 0.10)]

/-- Where the scores of the URLs in a file begin, given its path in small letters. -/
def pathBonus (path : String) : Score :=
  Binary64.sum ((settingsMarks.filter fun (mark, _) => contains path mark).map fun (_, bonus) =>
    Binary64.round bonus)

end Url

end ApiRecovery
