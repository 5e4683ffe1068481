import Edutopik.Library.EventLoop
import Edutopik.Media.PlayTime

/-! # The home screen

The home screen shows the site in a web view. The site's pages speak to it through
one channel, whose messages are `&`-separated fields; a message opens the player,
or asks first when the lecture is being watched elsewhere. Between a message and
the player there is one request, for the list of lectures.
-/

namespace Edutopik.Home

open Dart EventLoop Media

/-- What a channel message leads to, with the arguments it is called with. -/
inductive Reached where
  | startPlayer (preUrl listUrl : String) (playTime : PlayTime)
  | asyncConfirmDialog (preUrl listUrl : String) (playTime : PlayTime)

def Reached.listUrl : Reached → String
  | .startPlayer _ listUrl _ | .asyncConfirmDialog _ listUrl _ => listUrl

def Reached.playTime : Reached → PlayTime
  | .startPlayer _ _ playTime | .asyncConfirmDialog _ _ playTime => playTime

/-- `onMessageReceived`. A field that is missing or no number raises. -/
def onMessageReceived (uuid message : String) : Option Reached := do
  let msg := split '&' message
  let getTimeUrl ← Dart.index msg 10
  let sendUrl ← Dart.index msg 11
  let uid ← Dart.index msg 1
  let ocode ← Dart.index msg 3
  let scode ← Dart.index msg 4
  let lmNum ← (Dart.index msg 6).bind parseInt
  let lmTime ← Dart.index msg 7
  let checkLogUrl ← Dart.index msg 12
  let playTime : PlayTime :=
    { getTimeUrl := getTimeUrl
      sendUrl := sendUrl
      uid := uid
      ocode := ocode
      scode := scode
      lmNum := lmNum
      lmTime := lmTime
      uuid := uuid
      checkLogUrl := checkLogUrl }
  let kind ← Dart.index msg 2
  let preUrl ← Dart.index msg 8
  let listUrl ← Dart.index msg 9
  if kind = "overload" then some (.asyncConfirmDialog preUrl listUrl playTime)
  else some (.startPlayer preUrl listUrl playTime)

/-- The url the list of lectures is got from. -/
def listRequest (listUrl : String) (playTime : PlayTime) : String :=
  s!"{listUrl}?scode={playTime.scode}&uid={playTime.uid}&uuid={playTime.uuid}"

/-- `makeUrlList`: both fields have to be lists of strings. -/
def makeUrlList (preUrl : String) (res : JsonObject) : Option (List String × List String) :=
  match res.get "data", res.get "title" with
  | .array data, .array title => do
      let urls ← data.mapM fun postUrl => postUrl.toText.map fun text => preUrl ++ "/" ++ text
      let titles ← title.mapM Json.toText
      some (urls, titles)
  | _, _ => none

inductive Route where
  | home
  | confirm (preUrl listUrl : String) (playTime : PlayTime)
  | player (urls titles : List String) (playTime : PlayTime)

structure HomeScreen where
  uuid : String
  email : String
  /-- The route stack, topmost first. -/
  navigator : List Route := [.home]

/-- `startPlayer` while it waits for the list of lectures. -/
inductive Task where
  | awaitingList (preUrl : String) (playTime : PlayTime)

inductive Event where
  | message (text : String)
  /-- The two buttons of the dialog about viewing on another device. -/
  | declines
  | confirms
  /-- A player on top leaves the screen. -/
  | playerLeaves

inductive Effect where
  | get (url : String)
  | showDialog
  | pop
  /-- `PlayerScreen` is pushed. -/
  | push (urls titles : List String) (playTime : PlayTime)

namespace HomeScreen

def autoLogin : String := "https://www.edutopik2.com/seeun_test/auto_login.asp"

/-- The page the web view opens with. -/
def initialUrl (home : HomeScreen) : String :=
  s!"{autoLogin}?uid={home.email}&uuid={home.uuid}"

def idle (home : HomeScreen) : Turn HomeScreen Task Effect := { shared := home }

/-- The part of `startPlayer` before its await. -/
def startPlayer (home : HomeScreen) (preUrl listUrl : String) (playTime : PlayTime) :
    Turn HomeScreen Task Effect :=
  { shared := home
    tasks := [.awaitingList preUrl playTime]
    effects := [.get (listRequest listUrl playTime)] }

def asyncConfirmDialog (home : HomeScreen) (preUrl listUrl : String) (playTime : PlayTime) :
    Turn HomeScreen Task Effect :=
  { shared := { home with navigator := .confirm preUrl listUrl playTime :: home.navigator }
    effects := [.showDialog] }

def reach (home : HomeScreen) : Reached → Turn HomeScreen Task Effect
  | .startPlayer preUrl listUrl playTime => home.startPlayer preUrl listUrl playTime
  | .asyncConfirmDialog preUrl listUrl playTime => home.asyncConfirmDialog preUrl listUrl playTime

def react (home : HomeScreen) : Event → Turn HomeScreen Task Effect
  | .message text =>
      match onMessageReceived home.uuid text with
      | none => home.idle
      | some reached => home.reach reached
  | .declines =>
      match home.navigator with
      | .confirm _ _ _ :: rest => { shared := { home with navigator := rest }, effects := [.pop] }
      | _ => home.idle
  | .confirms =>
      match home.navigator with
      | .confirm preUrl listUrl playTime :: rest =>
          let started := { home with navigator := rest }.startPlayer preUrl listUrl playTime
          { started with effects := .pop :: started.effects }
      | _ => home.idle
  | .playerLeaves =>
      match home.navigator with
      | .player _ _ _ :: rest => { shared := { home with navigator := rest } }
      | _ => home.idle

/-- The rest of `startPlayer`. -/
def listAnswered (home : HomeScreen) (preUrl : String) (playTime : PlayTime) (res : JsonObject) :
    Turn HomeScreen Task Effect :=
  match makeUrlList preUrl res with
  | none => home.idle
  | some (urls, titles) =>
      { shared := { home with navigator := .player urls titles playTime :: home.navigator }
        effects := [.push urls titles playTime] }

def resume (home : HomeScreen) : Task → Reply → Turn HomeScreen Task Effect
  | .awaitingList preUrl playTime, reply =>
      match reply.object with
      | none => home.idle
      | some res => home.listAnswered preUrl playTime res

end HomeScreen

abbrev HomeWorld := World HomeScreen Task

abbrev HomeInput := Input Event Reply

def homeScreen : Loop HomeScreen Task Event Reply Effect where
  react := HomeScreen.react
  resume := HomeScreen.resume

/-- The home screen as it is opened after a login. -/
def HomeScreen.opened (email uuid : String) : HomeWorld :=
  { shared := { uuid := uuid, email := email }, tasks := [] }

end Edutopik.Home
