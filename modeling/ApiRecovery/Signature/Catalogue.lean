import ApiRecovery.Signature.Basic

/-!
# The catalogue of signatures

The library types that matter for a description, in the order in which they are tried: of several
signatures with the same score the first one counts.
-/

namespace ApiRecovery.Catalogue

def observable : Signature where
  name := "Observable"
  library := "io.reactivex:rxjava"
  roles := [.transparentWrapper]
  raw := [("new BlockingFirstObserver", 10)]
  literals :=
    [("observer is null", 10),
    ("The RxJavaPlugins.onSubscribe hook returned a null Observer. Please change the " ++
       "handler provided to RxJavaPlugins.setOnObservableSubscribe for invalid null returns. " ++
       "Further reading: https://github.com/ReactiveX/RxJava/wiki/Plugins", 20)]

def oldObservable : Signature where
  name := "WeirdAndOldObservable"
  library := "io.reactivex:rxjava"
  roles := [.transparentWrapper]
  simpleName := some "Observable"
  raw := [("new ActionSubscriber(", 5)]
  literals :=
    [("] and then again while trying to pass to onError.", 15),
    ("start + count can not exceed Integer.MAX_VALUE", 10),
    ("capacityHint > 0 required but it was ", 10),
    ("Error occurred attempting to subscribe [", 5),
    ("onNext can not be null", 2),
    ("onSubscribe function can not be null.", 2)]

def completable : Signature where
  name := "Completable"
  library := "io.reactivex:rxjava"
  roles := [.transparentWrapper]
  literals :=
    [("observer is null", 10),
    ("completionValueSupplier is null", 5),
    ("The RxJavaPlugins.onSubscribe hook returned a null CompletableObserver. Please check " ++
       "the handler provided to RxJavaPlugins.setOnCompletableSubscribe for invalid null " ++
       "returns. Further reading: https://github.com/ReactiveX/RxJava/wiki/Plugins", 20)]

def single : Signature where
  name := "Single"
  library := "io.reactivex:rxjava"
  roles := [.transparentWrapper]
  raw := [("new NullPointerException(\"subscribeActual failed\")", 10)]
  literals :=
    [("source is null", 2),
    ("The RxJavaPlugins.onSubscribe hook returned a null SingleObserver. Please check the " ++
       "handler provided to RxJavaPlugins.setOnSingleSubscribe for invalid null returns. " ++
       "Further reading: https://github.com/ReactiveX/RxJava/wiki/Plugins", 20),
    ("The RxJavaPlugins.onSubscribe hook returned a null MaybeObserver. Please check the " ++
       "handler provided to RxJavaPlugins.setOnMaybeSubscribe for invalid null returns. " ++
       "Further reading: https://github.com/ReactiveX/RxJava/wiki/Plugins", -20)]

def call : Signature where
  name := "Call"
  library := "com.squareup.retrofit2:retrofit"
  roles := [.transparentWrapper, .forceSchema]
  raw :=
    [("interface Call<T> extends Cloneable", 2),
    ("import okhttp3.Request", 4),
    ("extends Cloneable", 4)]
  rawSupport :=
    [("throws IOException", 2),
    ("public interface ", 2),
    ("Request request()", 8)]
  interfaceScore := 5
  typeParametersScore := 7
  forced := some .free

def response : Signature where
  name := "Response"
  library := "com.squareup.retrofit2:retrofit"
  roles := [.transparentWrapper]
  literals :=
    [("rawResponse should not be successful response", 10),
    ("rawResponse must be successful response", 10),
    ("Response.success()", 4),
    ("rawResponse == null", 2)]

def responseBody : Signature where
  name := "ResponseBody"
  library := "com.squareup.okhttp3:okhttp"
  roles := [.forceSchema]
  rawSupport := [("throw new NullPointerException(\"source == null\")", 1)]
  literals :=
    [("Cannot buffer entire body for content length: ", 12),
    ("Stream closed", 5),
    (") and stream length (", 4),
    ("rawResponse == null", 2)]
  literalSupport :=
    [("locally-initiated streams shouldn't have headers yet", -15),
    ("] windowUpdate", -10)]
  forced := some .free

def localTime : Signature where
  name := "LocalTime"
  library := "org.threeten:threetenbp"
  roles := [.forceSchema]
  literals := [("Unable to obtain LocalTime from TemporalAccessor: ", 16)]
  literalSupport :=
    [(", type ", 3),
    ("Deserialization via serialization delegate", 2),
    ("Unable to obtain LocalDate from TemporalAccessor: ", -15)]
  forced := some (.typed "string" (some "time"))

def localDate : Signature where
  name := "LocalDate"
  library := "org.threeten:threetenbp"
  roles := [.forceSchema]
  literals :=
    [("Invalid date 'February 29' as '", 16),
    ("Unable to obtain LocalDate from TemporalAccessor: ", 15)]
  literalSupport :=
    [("Invalid date 'DayOfYear 366' as '", 5),
    ("Deserialization via serialization delegate", 2)]
  minScore := 30
  forced := some (.typed "string" (some "date"))

def localDateTime : Signature where
  name := "LocalDateTime"
  library := "org.threeten:threetenbp"
  roles := [.forceSchema]
  literals := [("Unable to obtain LocalDateTime from TemporalAccessor: ", 20)]
  literalSupport :=
    [("Invalid date 'DayOfYear 366' as '", 5),
    ("Deserialization via serialization delegate", 2),
    ("offset", 1),
    ("time", 1),
    ("date", 1)]
  forced := some (.typed "string" (some "date-time"))

def zonedDateTime : Signature where
  name := "ZonedDateTime"
  library := "org.threeten:threetenbp"
  roles := [.forceSchema]
  literals := [("ZoneId must match ZoneOffset", 20)]
  literalSupport :=
    [("localDateTime", 5),
    ("ZoneOffset '", 7),
    ("offset", 1),
    ("zone", 1)]
  forced := some (.typed "string" (some "date-time"))

def baseObservable : Signature where
  name := "BaseObservable"
  library := "androidx.databinding:baseLibrary"
  roles := [.forceSchema, .ignoreWhenExtended]
  raw :=
    [("addOnPropertyChangedCallback(Observable.OnPropertyChangedCallback " ++
       "onPropertyChangedCallback)", 15)]
  forced := some .free

def typeAdapters : Signature where
  name := "TypeAdapters"
  library := "com.google.code.gson:gson"
  literals :=
    [("Attempted to deserialize a java.lang.Class. Forgot to register a type adapter?", 10),
    ("Attempted to serialize java.lang.Class: ", 10),
    (". Forgot to register a type adapter?", 10)]
  literalSupport :=
    [("Expecting character, got: ", 5),
    ("Expecting number, got: ", 5),
    ("Couldn't write ", 5)]

def serializedName : Signature where
  name := "SerializedName"
  library := "com.google.code.gson:gson"
  roles := [.alias]
  searched := false

def jsonProperty : Signature where
  name := "JsonProperty"
  library := "com.fasterxml.jackson.core:jackson-annotations"
  roles := [.alias]
  raw :=
    [("public @interface JsonProperty \x7b", 15),
    ("@JacksonAnnotation", 5)]
  rawSupport :=
    [("String value() default \"\"", 5),
    ("public enum Access", 5)]
  annotationScore  := 1

/-- Every signature, the preferred ones first. -/
def all : List Signature :=
  [observable, oldObservable, completable, single, call, response, responseBody, localTime,
   localDate, localDateTime, zonedDateTime, baseObservable, typeAdapters, serializedName,
   jsonProperty]

def find? (name : String) : Option Signature :=
  all.find? fun s => s.name == name

end ApiRecovery.Catalogue
