import StageGraph.Kind.Basic

/-!
# Deployment

The trained model is saved first; the deployment type decides what serves it.
-/

namespace StageGraph.Kind.Deployment

def fields : List Field := [
  { key := "deploymentType"
    label := "Deployment Type"
    kind := .select
    initial := .text "REST API"
    required := .bool true
    options := [plain "REST API", labelled "Batch" "Batch Processing", plain "Streaming"] },
  { key := "framework"
    label := "Framework"
    kind := .select
    initial := .text "FastAPI"
    options := [plain "FastAPI", plain "Flask", plain "Django"]
    condition := when "deploymentType" "REST API" },
  { key := "monitoring"
    label := "Enable Monitoring"
    kind := .boolean
    initial := .bool true }]

def saveLines : List String := [
  "# Save the model", "import joblib", "joblib.dump(model, 'model.pkl')", ""]

def batchLines : List String := [
  "import pandas as pd", "", "# Batch prediction", "def batch_predict(input_file, output_file):",
  "    model = joblib.load('model.pkl')", "    data = pd.read_csv(input_file)",
  "    predictions = model.predict(data)", "", "    results = pd.DataFrame(\x7b",
  "        'prediction': predictions", "    \x7d)",
  "    results.to_csv(output_file, index=False)",
  "    print(f\"Predictions saved to \x7boutput_file\x7d\")", "",
  "batch_predict('input.csv', 'predictions.csv')"]

def streamingLines : List String := [
  "# Streaming prediction", "def stream_predict(records):",
  "    model = joblib.load('model.pkl')", "    for record in records:",
  "        yield model.predict([record])[0]"]

def fastApiLines : List String := [
  "# FastAPI deployment example", "from fastapi import FastAPI", "", "app = FastAPI()", "",
  "@app.post(\"/predict\")", "def predict(features: list):",
  "    model = joblib.load('model.pkl')", "    prediction = model.predict([features])",
  "    return \x7b\"prediction\": prediction.tolist()\x7d", "",
  "# Run with: uvicorn main:app --reload"]

def flaskLines : List String := [
  "# Flask deployment example", "from flask import Flask, jsonify, request", "",
  "app = Flask(__name__)", "", "@app.route(\"/predict\", methods=[\"POST\"])", "def predict():",
  "    model = joblib.load('model.pkl')", "    features = request.get_json()[\"features\"]",
  "    prediction = model.predict([features])",
  "    return jsonify(\x7b\"prediction\": prediction.tolist()\x7d)", "",
  "# Run with: flask --app main run"]

def djangoLines : List String := [
  "# Django view example (add to views.py and route it in urls.py)", "import json",
  "from django.http import JsonResponse", "from django.views.decorators.csrf import csrf_exempt",
  "", "@csrf_exempt", "def predict(request):", "    model = joblib.load('model.pkl')",
  "    features = json.loads(request.body)[\"features\"]",
  "    prediction = model.predict([features])",
  "    return JsonResponse(\x7b\"prediction\": prediction.tolist()\x7d)"]

/-- The lines of the configured web framework. -/
def serviceLines (config : Config) : List String :=
  let framework := config.choice "framework" ["FastAPI", "Flask", "Django"] "FastAPI"
  if framework = "Flask" then flaskLines
  else if framework = "Django" then djangoLines
  else fastApiLines

def deploymentLines (config : Config) : List String :=
  if config.holds "deploymentType" "Batch" then batchLines
  else if config.holds "deploymentType" "Streaming" then streamingLines
  else serviceLines config

def monitoringLines (config : Config) : List String :=
  if config.isSet "monitoring" then [
    "", "# Prediction monitoring", "import logging", "",
    "logging.basicConfig(level=logging.INFO)",
    "monitor = logging.getLogger(\"model_monitoring\")",
    "monitor.info(\"Model deployed with monitoring enabled\")"]
  else []

def template (config : Config) : Except Failure String :=
  .ok (code (saveLines ++ deploymentLines config ++ monitoringLines config))

end StageGraph.Kind.Deployment

namespace StageGraph.Kind

def deployment : Kind :=
  { type := TypeName.deployment
    label := "Deployment"
    phase := .deployment
    description := "Deploy model to production"
    fields := Deployment.fields
    template := Deployment.template }

end StageGraph.Kind
